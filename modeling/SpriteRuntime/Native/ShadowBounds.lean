import SpriteRuntime.Native.ShadowLoop

/-!
# The vector of the shadow run

The vector has one entry for every four slots, rounded down, and the loop writes one for every
slot that begins four, rounded up.  The two agree exactly if the number of slots is a multiple
of four.
-/

namespace SpriteRuntime

open Foundation

/-- An exception, and no access outside the vector. -/
def ShadowFault.Raised (fault : ShadowFault) : Prop := ∃ what, fault = .raised what

/-- The first entries of the vector are written. -/
structure Filled (size ticks : ℕ) (state : ShadowState) : Prop where
  length : state.lateness.length = size
  tick : state.stateTick = ticks
  written : ∀ index < ticks, ∃ value, state.lateness[index]? = some (some value)

section Steps

variable {size ticks : ℕ}

theorem onMachine_vector {α : Type} (program : Native α) (state : ShadowState) :
    (onMachine program state).2.lateness = state.lateness ∧
      (onMachine program state).2.stateTick = state.stateTick := by
  unfold onMachine
  split <;> exact ⟨rfl, rfl⟩

theorem onMachine_guards {α : Type} (program : Native α) :
    Program.Guards (Filled size ticks) (onMachine program) (fun _ => Filled size ticks)
      ShadowFault.Raised := by
  apply Program.Guards.of_raises
  · apply Program.Triple.of_done
    intro state value final filled returned
    obtain ⟨lateness, tick⟩ := onMachine_vector program state
    rw [returned] at lateness tick
    constructor
    · rw [lateness]
      exact filled.length
    · rw [tick]
      exact filled.tick
    · rw [lateness]
      exact filled.written
  · intro state error thrown
    unfold onMachine at thrown
    split at thrown
    · cases thrown
    · cases thrown
      exact ⟨_, rfl⟩
    · cases thrown

/-- A store within the vector. -/
theorem storeLateness_guards (room : ticks < size) (wokeNs deadlineNs : ℤ) :
    Program.Guards (Filled size ticks) (storeLateness wokeNs deadlineNs)
      (fun _ => Filled size (ticks + 1)) ShadowFault.Raised := by
  intro state filled
  have inside : ¬state.lateness.length ≤ state.stateTick := by
    rw [filled.length, filled.tick]
    omega
  simp only [storeLateness, Program.bind_apply, Program.get_apply, Program.throwIf,
    if_neg inside, Program.pure_apply, Program.modify_apply]
  constructor
  · rintro _ _ ⟨⟩
    constructor
    · rw [List.length_set]
      exact filled.length
    · rw [filled.tick]
    · intro index before
      by_cases here : index = state.stateTick
      · subst here
        rw [List.getElem?_set_self (not_le.mp inside)]
        exact ⟨_, rfl⟩
      · rw [List.getElem?_set_ne (Ne.symm here)]
        apply filled.written
        rw [filled.tick] at here
        omega
  · rintro _ _ ⟨⟩

variable (setup : Setup) (world : World) (options : ShadowOptions)

/-- The store of a slot is the one that the slots before it leave room for. -/
theorem shadowSlot_guards {slot : ℕ} (inside : slot < 4 * size) (startNs : ℤ) :
    Program.Guards (Filled size ((slot + 3) / 4)) (shadowSlot setup world options startNs slot)
      (fun _ => Filled size ((slot + 1 + 3) / 4)) ShadowFault.Raised := by
  refine Program.Guards.bind (onMachine_guards _) fun wokeNs => ?_
  have stored : Program.Guards (Filled size ((slot + 3) / 4))
      (Program.runIf (slot % 4 = 0)
        (storeLateness wokeNs (startNs + slot * kTransportPeriodNs)))
      (fun _ => Filled size ((slot + 1 + 3) / 4)) ShadowFault.Raised := by
    by_cases begins : slot % 4 = 0
    · have next : (slot + 1 + 3) / 4 = (slot + 3) / 4 + 1 := by omega
      rw [Program.runIf, if_pos begins, next]
      exact storeLateness_guards (by omega) _ _
    · have same : (slot + 1 + 3) / 4 = (slot + 3) / 4 := by omega
      rw [Program.runIf, if_neg begins, same]
      exact Program.Guards.pure () fun _ filled => filled
  exact Program.Guards.bind stored fun _ => onMachine_guards _

theorem shadowLoop_guards (slots : setup.transportSlots = 4 * size) :
    Program.Guards (Filled size 0) (shadowLoop setup world options)
      (fun _ => Filled size size) ShadowFault.Raised := by
  refine Program.Guards.bind (onMachine_guards _) fun now => ?_
  have loop : Program.Guards (Filled size ((0 + 3) / 4))
      (Program.forEach (List.range setup.transportSlots)
        (shadowSlot setup world options (now + 100000000)))
      (fun _ => Filled size ((setup.transportSlots + 3) / 4)) ShadowFault.Raised := by
    have step : ∀ slot < setup.transportSlots, Program.Guards (Filled size ((slot + 3) / 4))
        (shadowSlot setup world options (now + 100000000) slot)
        (fun _ => Filled size ((slot + 1 + 3) / 4)) ShadowFault.Raised := by
      intro slot before
      exact shadowSlot_guards setup world options (by omega) _
    exact Program.Guards.forEach_range step
  have all : (setup.transportSlots + 3) / 4 = size := by omega
  rw [all] at loop
  exact Program.Guards.bind loop fun _ => Program.Guards.pure _ fun _ filled => filled

/-- A vector with an entry has a percentile and a maximum. -/
theorem percentile_isSome {values : List ℚ} (some : values ≠ []) (fraction : ℚ) :
    ∃ value, percentile values fraction = .some value := by
  have positive := List.length_pos_iff.mpr some
  have inside : min (values.length - 1) (⌈fraction * values.length⌉.toNat - 1) <
      values.mergeSort.length := by
    rw [List.length_mergeSort]
    omega
  exact ⟨_, List.getElem?_eq_getElem inside⟩

theorem jsonReport_guards (positive : 0 < size) (client : Bool) (finishedNs : ℤ) :
    Program.Guards (Filled size ticks) (jsonReport client finishedNs)
      (fun _ => Filled size ticks) ShadowFault.Raised := by
  intro state filled
  have some : state.lateness.map (fun entry => entry.getD 0) ≠ [] := by
    rw [← List.length_pos_iff, List.length_map, filled.length]
    exact positive
  obtain ⟨p99, ranked⟩ := percentile_isSome some (99 / 100)
  obtain ⟨maximum, largest⟩ : ∃ maximum,
      maxElement (state.lateness.map fun entry => entry.getD 0) = .some maximum := by
    rw [← Option.ne_none_iff_exists', maxElement]
    exact fun none => some (List.max?_eq_none_iff.mp none)
  simp only [jsonReport, Program.bind_apply, Program.get_apply, ranked, largest,
    Program.pure_apply]
  constructor
  · rintro _ _ ⟨⟩
    exact filled
  · rintro _ _ ⟨⟩

end Steps

/-! ## Where the vector fits -/

section Fits

variable (setup : Setup) (world : World) (options : ShadowOptions)

/-- No access of the run is outside the vector, and a loop that is completed has written every
entry of a vector that has one. -/
structure LatenessInBounds : Prop where
  inside : ∀ index size final,
    shadowRun setup world options setup.shadowStart ≠ (.thrown (.overrun index size), final)
  written : ∀ startNs final,
    shadowLoop setup world options setup.shadowStart = (.done startNs, final) →
      final.lateness ≠ [] ∧ ∀ entry ∈ final.lateness, entry.isSome = true

/-- The vector fits if the number of slots is a positive multiple of four. -/
theorem latenessInBounds_of_multiple {size : ℕ} (positive : 0 < size)
    (slots : setup.transportSlots = 4 * size) : LatenessInBounds setup world options := by
  have start : Filled size 0 setup.shadowStart := by
    constructor
    · rw [Setup.shadowStart, List.length_replicate, slots]
      omega
    · rfl
    · intro index before
      omega
  have loop := shadowLoop_guards setup world options slots
  constructor
  · intro index total final overrun
    have finish : Program.Guards (Filled size size) (shadowFinish setup world options)
        (fun _ => Filled size size) ShadowFault.Raised :=
      Program.Guards.bind (onMachine_guards _) fun finishedNs =>
        jsonReport_guards positive options.client finishedNs
    have run : Program.Guards (Filled size 0) (shadowRun setup world options)
        (fun _ => Filled size size) ShadowFault.Raised := by
      refine Program.Guards.bind loop fun _ => Program.Guards.bind finish fun report => ?_
      refine Program.Guards.bind (onMachine_guards _) fun _ => ?_
      exact Program.Guards.pure _ fun _ filled => filled
    obtain ⟨what, same⟩ := (run _ start).2 _ _ overrun
    cases same
  · intro startNs final returned
    have filled := (loop _ start).1 _ _ returned
    constructor
    · rw [← List.length_pos_iff, filled.length]
      exact positive
    · intro entry member
      obtain ⟨index, inside, rfl⟩ := List.getElem_of_mem member
      obtain ⟨value, stored⟩ := filled.written index (by rw [← filled.length]; exact inside)
      rw [List.getElem?_eq_getElem inside, Option.some.injEq] at stored
      rw [stored]
      rfl

end Fits

/-! ## Where it does not -/

section Quiet

/-- The bench for a duration. -/
def benchFor (durationS : ℚ) : Setup := { benchSetup with durationS }

/-- A shadow run without a client. -/
def aloneOptions : ShadowOptions :=
  { client := false
    jointSafety := none
    boundedShadowPreview := false }

/-- No motor has reported another position than zero. -/
def AtZero (machine : Machine) : Prop := ∀ index, (machine.motors index).lastPosition = 0

/-- A bench motor at zero can be polled. -/
theorem zeroGainPayload_bench (index : Index) {motor : MotorState}
    (zero : motor.lastPosition = 0) :
    ∃ data, zeroGainPayload (benchMotors.descriptor index) motor = .ok data := by
  have same : zeroGainPayload (benchMotors.descriptor index) motor =
      zeroGainPayload MotorDescriptor.testMotor {} := by
    unfold zeroGainPayload
    rw [zero]
    rfl
  rw [same]
  exact exists_ok_of_isOk (by decide +kernel)

variable (durationS : ℚ)

theorem sendPoll_quiet (index : Index) :
    Program.Triple AtZero (sendPoll (benchFor durationS) quietWorld index) (fun _ => AtZero)
      fun _ => False := by
  intro machine zero
  obtain ⟨data, payload⟩ := zeroGainPayload_bench index (zero index)
  have encoded : Program.ofExcept (zeroGainPayload ((benchFor durationS).loaded.descriptor index)
      (machine.motors index)) machine = (.done data, machine) :=
    Program.ofExcept_eq_done_iff.mpr ⟨payload, rfl⟩
  rw [sendPoll, Program.bind_apply_done (Program.get_apply machine),
    Program.bind_apply_done encoded]
  apply Program.Ends.done_iff.mpr
  intro other
  by_cases here : other = index
  · subst here
    simpa using zero other
  · simpa [here] using zero other

theorem pollDue_quiet (slot : ℕ) :
    Program.Triple AtZero (pollDue (benchFor durationS) quietWorld slot) (fun _ => AtZero)
      fun _ => False := by
  apply Program.Triple.forEach_keeps
  intro index
  apply Program.Triple.runIf
  · exact fun _ => sendPoll_quiet durationS index
  · exact fun _ _ zero => zero

theorem drainShadowFeedback_quiet :
    Program.Triple AtZero (drainShadowFeedback (benchFor durationS) quietWorld false)
      (fun _ => AtZero) fun _ => False := by
  apply Program.Triple.forEach_keeps
  intro interface machine zero
  exact Program.Ends.done_iff.mpr zero

/-- A slot of a quiet run without its store. -/
theorem shadowExchange_quiet (slot : ℕ) :
    Program.Triple AtZero
      (shadowExchange (benchFor durationS) quietWorld aloneOptions slot) (fun _ => AtZero)
      fun _ => False := by
  refine Program.Triple.bind (pollDue_quiet durationS slot) fun _ => ?_
  refine Program.Triple.bind (drainShadowFeedback_quiet durationS) fun _ => ?_
  exact Program.Triple.pure () fun _ zero => zero

theorem wake_quiet :
    Program.Triple AtZero (do sleepUntil quietWorld; monotonicNs quietWorld) (fun _ => AtZero)
      fun _ => False := by
  intro machine zero
  exact Program.Ends.done_iff.mpr zero

theorem clock_quiet :
    Program.Triple AtZero (monotonicNs quietWorld) (fun _ => AtZero) fun _ => False := by
  intro machine zero
  exact Program.Ends.done_iff.mpr zero

/-- A quiet run has made this many stores. -/
structure QuietAt (size ticks : ℕ) (state : ShadowState) : Prop where
  zero : AtZero state.toMachine
  length : state.lateness.length = size
  tick : state.stateTick = ticks

variable {size ticks : ℕ}

theorem onMachine_quiet {α : Type} {program : Native α}
    (quiet : Program.Triple AtZero program (fun _ => AtZero) fun _ => False) :
    Program.Triple (QuietAt size ticks) (onMachine program) (fun _ => QuietAt size ticks)
      fun _ => False := by
  intro state quietAt
  have ends := quiet state.toMachine quietAt.zero
  unfold onMachine
  split
  next same =>
      rw [same] at ends
      exact Program.Ends.done_iff.mpr
        ⟨Program.Ends.done_iff.mp ends, quietAt.length, quietAt.tick⟩
  next same =>
      rw [same] at ends
      exact absurd (Program.Ends.thrown_iff.mp ends) id
  next same =>
      rw [same] at ends
      exact absurd (Program.Ends.unfinished_iff.mp ends) id

theorem storeLateness_quiet (room : ticks < size) (wokeNs deadlineNs : ℤ) :
    Program.Triple (QuietAt size ticks) (storeLateness wokeNs deadlineNs)
      (fun _ => QuietAt size (ticks + 1)) fun _ => False := by
  intro state quietAt
  have inside : ¬state.lateness.length ≤ state.stateTick := by
    rw [quietAt.length, quietAt.tick]
    omega
  simp only [storeLateness, Program.bind_apply, Program.get_apply, Program.throwIf,
    if_neg inside, Program.pure_apply, Program.modify_apply]
  apply Program.Ends.done_iff.mpr
  constructor
  · exact quietAt.zero
  · rw [List.length_set]
    exact quietAt.length
  · rw [quietAt.tick]

theorem shadowSlot_quiet {slot : ℕ} (inside : slot < 4 * size) (startNs : ℤ) :
    Program.Triple (QuietAt size ((slot + 3) / 4))
      (shadowSlot (benchFor durationS) quietWorld aloneOptions startNs slot)
      (fun _ => QuietAt size ((slot + 1 + 3) / 4)) fun _ => False := by
  refine Program.Triple.bind (onMachine_quiet wake_quiet) fun wokeNs => ?_
  have stored : Program.Triple (QuietAt size ((slot + 3) / 4))
      (Program.runIf (slot % 4 = 0)
        (storeLateness wokeNs (startNs + slot * kTransportPeriodNs)))
      (fun _ => QuietAt size ((slot + 1 + 3) / 4)) fun _ => False := by
    apply Program.Triple.runIf
    · intro begins
      have next : (slot + 1 + 3) / 4 = (slot + 3) / 4 + 1 := by omega
      rw [next]
      exact storeLateness_quiet (by omega) _ _
    · intro inBetween state quietAt
      have same : (slot + 1 + 3) / 4 = (slot + 3) / 4 := by omega
      rw [same]
      exact quietAt
  exact Program.Triple.bind stored fun _ => onMachine_quiet (shadowExchange_quiet durationS slot)

theorem quietAt_start (slots : (benchFor durationS).transportSlots / 4 = size) :
    QuietAt size 0 (benchFor durationS).shadowStart := by
  constructor
  · intro index
    rfl
  · rw [Setup.shadowStart, List.length_replicate, slots]
  · rfl

/-- The slots that the vector has room for. -/
theorem shadowSlots_quiet (startNs : ℤ) :
    Program.Triple (QuietAt size 0)
      (Program.forEach (List.range (4 * size))
        (shadowSlot (benchFor durationS) quietWorld aloneOptions startNs))
      (fun _ => QuietAt size size) fun _ => False := by
  have step : ∀ slot < 4 * size, Program.Triple (QuietAt size ((slot + 3) / 4))
      (shadowSlot (benchFor durationS) quietWorld aloneOptions startNs slot)
      (fun _ => QuietAt size ((slot + 1 + 3) / 4)) fun _ => False :=
    fun slot before => shadowSlot_quiet durationS before startNs
  have all : (4 * size + 3) / 4 = size := by omega
  have loop := Program.Triple.forEach_range step
  rw [all] at loop
  exact loop

/-- The store of the slot behind them is outside the vector. -/
theorem shadowSlot_overrun {state : ShadowState} (quietAt : QuietAt size size state)
    (startNs : ℤ) :
    ∃ final, shadowSlot (benchFor durationS) quietWorld aloneOptions startNs (4 * size) state =
      (.thrown (.overrun size size), final) := by
  obtain ⟨wokeNs, woken, woke, stillQuiet⟩ := (onMachine_quiet wake_quiet).returns quietAt
  have full : woken.lateness.length ≤ woken.stateTick := by
    rw [stillQuiet.length, stillQuiet.tick]
  refine ⟨woken, ?_⟩
  rw [shadowSlot, Program.bind_apply_done woke, Program.bind_apply, Program.runIf,
    if_pos (Nat.mul_mod_right 4 size)]
  simp only [storeLateness, Program.bind_apply, Program.get_apply, Program.throwIf,
    if_pos full]
  rw [stillQuiet.length, stillQuiet.tick]
  rfl

/-- With slots left over the quiet run writes behind the end of the vector. -/
theorem shadowLoop_overrun (left : (benchFor durationS).transportSlots % 4 ≠ 0) :
    ∃ size final, shadowLoop (benchFor durationS) quietWorld aloneOptions
      (benchFor durationS).shadowStart = (.thrown (.overrun size size), final) := by
  let size := (benchFor durationS).transportSlots / 4
  obtain ⟨rest, slots⟩ : ∃ rest, (benchFor durationS).transportSlots = 4 * size + (rest + 1) :=
    ⟨(benchFor durationS).transportSlots % 4 - 1, by omega⟩
  have begun : QuietAt size 0 (benchFor durationS).shadowStart := quietAt_start durationS rfl
  obtain ⟨now, started, read, quietStart⟩ := (onMachine_quiet clock_quiet).returns begun
  obtain ⟨_, reached, ran, quietAt⟩ :=
    (shadowSlots_quiet durationS (now + 100000000)).returns quietStart
  obtain ⟨final, overrun⟩ := shadowSlot_overrun durationS quietAt (now + 100000000)
  refine ⟨size, final, ?_⟩
  rw [shadowLoop, Program.bind_apply_done read, slots, List.range_add, Program.forEach_append,
    Program.bind_assoc, Program.bind_apply_done ran, List.range_succ_eq_map, List.map_cons,
    Program.forEach, Program.bind_assoc, Program.bind_apply, Nat.add_zero, overrun]

end Quiet

/-- The number of slots of a duration. -/
def slotsOf (durationS : ℚ) : ℕ := (llround (durationS * kTransportRateHz)).toNat

/-- **The bounds of the shadow run.**  The vector fits every run of a duration exactly if the
duration makes a positive multiple of four slots. -/
theorem latenessInBounds_iff (durationS : ℚ) :
    (∀ setup world options, setup.durationS = durationS →
        LatenessInBounds setup world options) ↔
      0 < slotsOf durationS ∧ slotsOf durationS % 4 = 0 := by
  constructor
  · intro fits
    have quiet := fits (benchFor durationS) quietWorld aloneOptions rfl
    have multiple : slotsOf durationS % 4 = 0 := by
      by_contra left
      obtain ⟨size, final, overrun⟩ := shadowLoop_overrun durationS left
      apply quiet.inside size size final
      rw [shadowRun, Program.bind_apply, overrun]
    refine ⟨?_, multiple⟩
    by_contra none
    have slots : (benchFor durationS).transportSlots = 0 := Nat.eq_zero_of_not_pos none
    have begun : QuietAt 0 0 (benchFor durationS).shadowStart :=
      quietAt_start durationS (by rw [slots])
    obtain ⟨now, started, read, quietStart⟩ := (onMachine_quiet clock_quiet).returns begun
    have ended : shadowLoop (benchFor durationS) quietWorld aloneOptions
        (benchFor durationS).shadowStart = (.done (now + 100000000), started) := by
      rw [shadowLoop, Program.bind_apply_done read, slots]
      rfl
    exact (quiet.written _ _ ended).1 (List.length_eq_zero_iff.mp quietStart.length)
  · rintro ⟨positive, multiple⟩ setup world options rfl
    have slots : setup.transportSlots = 4 * (setup.transportSlots / 4) := by
      have same : setup.transportSlots % 4 = 0 := multiple
      omega
    have some : 0 < setup.transportSlots / 4 := by
      have positive' : 0 < setup.transportSlots := positive
      omega
    exact latenessInBounds_of_multiple setup world options some slots

/-- Two slots write to an empty vector. -/
theorem latenessInBounds_fails :
    ∃ setup world options, (0 < setup.durationS ∧ setup.durationS ≤ 120) ∧
      ¬LatenessInBounds setup world options := by
  refine ⟨benchFor (1 / 1000), quietWorld, aloneOptions, by decide +kernel, ?_⟩
  intro quiet
  obtain ⟨size, final, overrun⟩ := shadowLoop_overrun (1 / 1000) (by decide +kernel)
  apply quiet.inside size size final
  rw [shadowRun, Program.bind_apply, overrun]

end SpriteRuntime
