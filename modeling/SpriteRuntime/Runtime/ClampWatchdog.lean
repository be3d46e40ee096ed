import Mathlib.Algebra.Order.Field.Rat
import Mathlib.Algebra.Order.Group.Unbundled.Abs
import SpriteRuntime.Foundation.Dictionary
import SpriteRuntime.Foundation.ProgramSteps
import SpriteRuntime.Foundation.Streak

/-!
# The clamp watchdog

The watchdog counts, for each watched joint, the ticks in a row whose raw target lies too far
beyond its projection, and raises when a count reaches its limit.
-/

namespace SpriteRuntime

open Foundation

/-- `{name: index for index, name in enumerate(joint_names)}`: of equal names the last counts. -/
def jointIndices (jointNames : List String) : Dictionary ℕ := jointNames.zipIdx

/-- A watchdog as its constructor leaves it: the checks of `__post_init__` are fields. -/
structure ConsecutiveClampWatchdog where
  jointNames : List String
  watchedJointNames : List String
  minimumOvershootRad : ℚ
  maximumConsecutiveTicks : ℤ
  ignoredInitialTicks : ℤ
  watchedUnique : watchedJointNames ≠ [] ∧ watchedJointNames.Nodup
  watchedKnown : ∀ name ∈ watchedJointNames, name ∈ (jointIndices jointNames).keys
  overshootRange : 0 < minimumOvershootRad ∧ minimumOvershootRad ≤ 1 / 5
  consecutiveRange : 1 ≤ maximumConsecutiveTicks ∧ maximumConsecutiveTicks ≤ 100
  ignoredRange : 0 ≤ ignoredInitialTicks ∧ ignoredInitialTicks ≤ 1000

/-- The part of the watchdog that the updates change. -/
structure ClampCounters where
  consecutive : String → ℕ
  updateCount : ℕ
  maximumObservedConsecutiveTicks : String → ℕ

/-- The positions of one tick. -/
structure ClampTick where
  rawPositionRad : List ℚ
  projectedPositionRad : List ℚ

inductive ClampError where
  | invalid (text : String)
  | tripped (name : String) (overshoot : ℚ) (consecutive : ℕ)
  deriving DecidableEq

namespace ConsecutiveClampWatchdog

/-- The constructor. -/
def make (jointNames watchedJointNames : List String) (minimumOvershootRad : ℚ)
    (maximumConsecutiveTicks ignoredInitialTicks : ℤ) :
    Except String ConsecutiveClampWatchdog :=
  if watchedUnique : watchedJointNames ≠ [] ∧ watchedJointNames.Nodup then
    if watchedKnown : ∀ name ∈ watchedJointNames, name ∈ (jointIndices jointNames).keys then
      if overshootRange : 0 < minimumOvershootRad ∧ minimumOvershootRad ≤ 1 / 5 then
        if consecutiveRange : 1 ≤ maximumConsecutiveTicks ∧ maximumConsecutiveTicks ≤ 100 then
          if ignoredRange : 0 ≤ ignoredInitialTicks ∧ ignoredInitialTicks ≤ 1000 then
            .ok
              { jointNames
                watchedJointNames
                minimumOvershootRad
                maximumConsecutiveTicks
                ignoredInitialTicks
                watchedUnique
                watchedKnown
                overshootRange
                consecutiveRange
                ignoredRange }
          else .error "clamp watchdog ignored initial ticks must be in [0, 1000]"
        else .error "clamp watchdog consecutive ticks must be in [1, 100]"
      else .error "clamp watchdog overshoot must be in (0, 0.2] rad"
    else
      let unknown := watchedJointNames.filter (· ∉ (jointIndices jointNames).keys)
      .error ("unknown clamp watchdog joints: " ++
        ", ".intercalate (unknown.mergeSort fun left right => decide (left ≤ right)))
  else .error "clamp watchdog joints must be nonempty and unique"

/-- The counters of a new watchdog. -/
def initial : ClampCounters := ⟨fun _ => 0, 0, fun _ => 0⟩

variable (watchdog : ConsecutiveClampWatchdog)

/-- `indices[name]`. -/
def jointIndex (name : String) : ℕ := ((jointIndices watchdog.jointNames).get? name).getD 0

/-- `_indices`. -/
def indices : List (String × ℕ) :=
  watchdog.watchedJointNames.map fun name => (name, watchdog.jointIndex name)

/-- `abs(float(raw[index] - projected[index]))`. -/
def overshoot (tick : ClampTick) (index : ℕ) : ℚ :=
  |tick.rawPositionRad.getD index 0 - tick.projectedPositionRad.getD index 0|

/-- The count of a joint in this tick. -/
def nextConsecutive (tick : ClampTick) (index : ℕ) (consecutive : ℕ) : ℕ :=
  if watchdog.minimumOvershootRad < overshoot tick index then consecutive + 1 else 0

/-- The body of the joint loop. -/
def observe (tick : ClampTick) (entry : String × ℕ) : Program ClampCounters ClampError Unit := do
  Program.modify fun counters =>
    { counters with
      consecutive := Function.update counters.consecutive entry.1
        (watchdog.nextConsecutive tick entry.2 (counters.consecutive entry.1)) }
  Program.modify fun counters =>
    { counters with
      maximumObservedConsecutiveTicks :=
        Function.update counters.maximumObservedConsecutiveTicks entry.1
          (max (counters.maximumObservedConsecutiveTicks entry.1)
            (counters.consecutive entry.1)) }
  let counters ← Program.get
  Program.throwIf (watchdog.maximumConsecutiveTicks ≤ counters.consecutive entry.1)
    (.tripped entry.1 (overshoot tick entry.2) (counters.consecutive entry.1))

def update (tick : ClampTick) : Program ClampCounters ClampError Unit := do
  Program.throwIf (tick.rawPositionRad.length ≠ watchdog.jointNames.length ∨
      tick.projectedPositionRad.length ≠ tick.rawPositionRad.length)
    (.invalid "clamp watchdog positions must be finite joint vectors")
  Program.modify fun counters => { counters with updateCount := counters.updateCount + 1 }
  let counters ← Program.get
  Program.runIf (¬counters.updateCount ≤ watchdog.ignoredInitialTicks)
    (Program.forEach watchdog.indices (watchdog.observe tick))

/-! ## One tick -/

/-- The joint is beyond its limit in the tick. -/
def Over (name : String) (tick : ClampTick) : Prop :=
  watchdog.minimumOvershootRad < overshoot tick (watchdog.jointIndex name)

instance (name : String) : DecidablePred (watchdog.Over name) :=
  fun _ => inferInstanceAs (Decidable (_ < _))

/-- The count of a joint after the tick. -/
def counted (tick : ClampTick) (counters : ClampCounters) (name : String) : ℕ :=
  streakStep (watchdog.Over name) (counters.consecutive name) tick

/-- The counters after the tick has been seen for some joints. -/
def observed (tick : ClampTick) (names : List String) (counters : ClampCounters) :
    ClampCounters :=
  { counters with
    consecutive := fun name =>
      if name ∈ names then watchdog.counted tick counters name else counters.consecutive name
    maximumObservedConsecutiveTicks := fun name =>
      if name ∈ names then
        max (counters.maximumObservedConsecutiveTicks name) (watchdog.counted tick counters name)
      else counters.maximumObservedConsecutiveTicks name }

variable {watchdog} {tick : ClampTick} {name : String} {names : List String}
  {counters : ClampCounters}

theorem observed_cons (fresh : name ∉ names) :
    watchdog.observed tick (name :: names) counters =
      watchdog.observed tick names (watchdog.observed tick [name] counters) := by
  have other {joint : String} (member : joint ∈ names) : joint ≠ name :=
    fun same => fresh (same ▸ member)
  unfold observed counted
  congr 1
  · funext joint
    by_cases member : joint ∈ names
    · simp [member, other member]
    · simp [member]
  · funext joint
    by_cases member : joint ∈ names
    · simp [member, other member]
    · simp [member]

theorem observed_consecutive (member : name ∈ names) :
    (watchdog.observed tick names counters).consecutive name =
      watchdog.counted tick counters name := if_pos member

theorem observed_maximum (member : name ∈ names) :
    (watchdog.observed tick names counters).maximumObservedConsecutiveTicks name =
      max (counters.maximumObservedConsecutiveTicks name) (watchdog.counted tick counters name) :=
  if_pos member

theorem counted_observed {other : String} (apart : other ≠ name) :
    watchdog.counted tick (watchdog.observed tick [name] counters) other =
      watchdog.counted tick counters other := by
  simp [counted, observed, apart]

/-- The body of the loop counts the joint and then looks at the count. -/
theorem observe_apply :
    watchdog.observe tick (name, watchdog.jointIndex name) counters =
      Program.throwIf (watchdog.maximumConsecutiveTicks ≤ watchdog.counted tick counters name)
        (.tripped name (overshoot tick (watchdog.jointIndex name))
          (watchdog.counted tick counters name))
        (watchdog.observed tick [name] counters) := by
  have counting : (watchdog.nextConsecutive tick (watchdog.jointIndex name)
      (counters.consecutive name)) = watchdog.counted tick counters name := rfl
  have after : (⟨Function.update counters.consecutive name (watchdog.counted tick counters name),
      counters.updateCount,
      Function.update counters.maximumObservedConsecutiveTicks name
        (max (counters.maximumObservedConsecutiveTicks name)
          (watchdog.counted tick counters name))⟩ : ClampCounters) =
        watchdog.observed tick [name] counters := by
    unfold observed
    congr 1
    · funext joint
      by_cases same : joint = name
      · subst same
        simp
      · simp [same]
    · funext joint
      by_cases same : joint = name
      · subst same
        simp
      · simp [same]
  unfold observe
  rw [Program.bind_apply_done (Program.modify_apply _ _),
    Program.bind_apply_done (Program.modify_apply _ _),
    Program.bind_apply_done (Program.get_apply _)]
  simp only [Function.update_self, counting, after]

/-- The joints of a list, with their places. -/
abbrev entries (watchdog : ConsecutiveClampWatchdog) (names : List String) :
    List (String × ℕ) :=
  names.map fun name => (name, watchdog.jointIndex name)

theorem forEach_observe_done (distinct : names.Nodup)
    (below : ∀ name ∈ names,
      ¬watchdog.maximumConsecutiveTicks ≤ watchdog.counted tick counters name) :
    Program.forEach (watchdog.entries names) (watchdog.observe tick) counters =
      (.done (), watchdog.observed tick names counters) := by
  induction names generalizing counters with
  | nil => simp [Program.forEach, observed, pure]
  | cons name rest induction =>
      obtain ⟨fresh, others⟩ := List.nodup_cons.mp distinct
      have first := @observe_apply watchdog tick name counters
      rw [Program.throwIf, if_neg (below name List.mem_cons_self)] at first
      have later : ∀ other ∈ rest, ¬watchdog.maximumConsecutiveTicks ≤
          watchdog.counted tick (watchdog.observed tick [name] counters) other := by
        intro other member
        have apart : other ≠ name := fun same => fresh (same ▸ member)
        rw [counted_observed apart]
        exact below other (List.mem_cons_of_mem _ member)
      rw [entries, List.map_cons, Program.forEach, Program.bind_apply_done first,
        induction others later, observed_cons fresh]

theorem forEach_observe_thrown (distinct : names.Nodup)
    (reached : ∃ name ∈ names,
      watchdog.maximumConsecutiveTicks ≤ watchdog.counted tick counters name) :
    ∃ name ∈ names, ∃ overshoot consecutive final,
      Program.forEach (watchdog.entries names) (watchdog.observe tick) counters =
        (.thrown (.tripped name overshoot consecutive), final) := by
  induction names generalizing counters with
  | nil =>
      obtain ⟨name, member, _⟩ := reached
      cases member
  | cons name rest induction =>
      obtain ⟨fresh, others⟩ := List.nodup_cons.mp distinct
      have first := @observe_apply watchdog tick name counters
      by_cases here : watchdog.maximumConsecutiveTicks ≤ watchdog.counted tick counters name
      · rw [Program.throwIf, if_pos here] at first
        have thrown : Program.forEach (watchdog.entries (name :: rest)) (watchdog.observe tick)
            counters =
              (.thrown (.tripped name (overshoot tick (watchdog.jointIndex name))
                (watchdog.counted tick counters name)), watchdog.observed tick [name] counters) := by
          rw [entries, List.map_cons, Program.forEach, Program.bind_apply, first]
          rfl
        exact ⟨name, List.mem_cons_self, _, _, _, thrown⟩
      · rw [Program.throwIf, if_neg here] at first
        obtain ⟨other, member, tripped⟩ := reached
        have inRest : other ∈ rest := by
          rcases List.mem_cons.mp member with rfl | member
          · exact absurd tripped here
          · exact member
        have apart : other ≠ name := fun same => fresh (same ▸ inRest)
        obtain ⟨tripping, inside, overshoot, consecutive, final, thrown⟩ :=
          induction others ⟨other, inRest, by rw [counted_observed apart]; exact tripped⟩
        refine ⟨tripping, List.mem_cons_of_mem _ inside, overshoot, consecutive, final, ?_⟩
        rw [entries, List.map_cons, Program.forEach, Program.bind_apply_done first, thrown]

/-! ## A run -/

variable (watchdog)

/-- The positions have the size of the joint list. -/
def Shaped (tick : ClampTick) : Prop :=
  tick.rawPositionRad.length = watchdog.jointNames.length ∧
    tick.projectedPositionRad.length = watchdog.jointNames.length

/-- The ticks after the ignored ones. -/
def watched (ticks : List ClampTick) : List ClampTick :=
  ticks.drop watchdog.ignoredInitialTicks.toNat

/-- Some watched joint was over in every one of the last ticks, all of them watched. -/
def FullStreak (ticks : List ClampTick) : Prop :=
  ∃ name ∈ watchdog.watchedJointNames,
    EndsInRun (watchdog.Over name) watchdog.maximumConsecutiveTicks.toNat (watchdog.watched ticks)

/-- The counters after some ticks that have not raised. -/
structure Reached (ticks : List ClampTick) (counters : ClampCounters) : Prop where
  updateCount : counters.updateCount = ticks.length
  consecutive : ∀ name ∈ watchdog.watchedJointNames,
    counters.consecutive name = streak (watchdog.Over name) (watchdog.watched ticks)
  maximum : ∀ name ∈ watchdog.watchedJointNames,
    IsLongestRun (watchdog.Over name) (watchdog.watched ticks)
      (counters.maximumObservedConsecutiveTicks name)

theorem reached_initial : watchdog.Reached [] initial := by
  constructor
  · rfl
  · intro name _
    simp [initial, watched]
  · intro name _
    simp only [watched, List.drop_nil]
    exact IsLongestRun.nil

variable {watchdog} {ticks : List ClampTick}

theorem watched_snoc_of_lt (ignored : ticks.length < watchdog.ignoredInitialTicks.toNat) :
    watchdog.watched (ticks ++ [tick]) = [] := by
  apply List.drop_eq_nil_of_le
  rw [List.length_append, List.length_singleton]
  exact ignored

theorem watched_snoc_of_le (passed : watchdog.ignoredInitialTicks.toNat ≤ ticks.length) :
    watchdog.watched (ticks ++ [tick]) = watchdog.watched ticks ++ [tick] :=
  List.drop_append_of_le_length passed

theorem limit_le_iff {count : ℕ} :
    watchdog.maximumConsecutiveTicks ≤ count ↔ watchdog.maximumConsecutiveTicks.toNat ≤ count :=
  Int.toNat_le.symm

/-- Without a watched tick there is no full streak, because the limit is not zero. -/
theorem not_fullStreak_of_watched (none : watchdog.watched ticks = []) :
    ¬watchdog.FullStreak ticks := by
  rintro ⟨name, _, before, run, split, size, _⟩
  rw [none] at split
  obtain ⟨_, rfl⟩ := List.append_eq_nil_iff.mp split.symm
  have positive := watchdog.consecutiveRange.1
  have zero : watchdog.maximumConsecutiveTicks.toNat = 0 := size.symm
  omega

theorem not_fullStreak_of_lt (ignored : ticks.length < watchdog.ignoredInitialTicks.toNat) :
    ¬watchdog.FullStreak (ticks ++ [tick]) :=
  not_fullStreak_of_watched (watched_snoc_of_lt ignored)

theorem not_fullStreak_nil : ¬watchdog.FullStreak [] :=
  not_fullStreak_of_watched (List.drop_nil)

/-- After the ignored ticks, a joint reaches the limit when the ticks end in a full streak. -/
theorem fullStreak_snoc_iff {counters : ClampCounters}
    (passed : watchdog.ignoredInitialTicks.toNat ≤ ticks.length)
    (reached : watchdog.Reached ticks counters) :
    watchdog.FullStreak (ticks ++ [tick]) ↔
      ∃ name ∈ watchdog.watchedJointNames,
        watchdog.maximumConsecutiveTicks ≤ watchdog.counted tick counters name := by
  unfold FullStreak
  apply exists_congr
  intro name
  apply and_congr_right
  intro member
  rw [watched_snoc_of_le passed, ← le_streak_iff, streak_append_singleton, limit_le_iff, counted,
    reached.consecutive name member]

/-- An update past the checks: it counts itself, and from the first watched tick on the joints. -/
theorem update_apply (shaped : watchdog.Shaped tick) (reached : watchdog.Reached ticks counters) :
    watchdog.update tick counters =
      if ticks.length < watchdog.ignoredInitialTicks.toNat then
        (.done (), { counters with updateCount := ticks.length + 1 })
      else
        Program.forEach watchdog.indices (watchdog.observe tick)
          { counters with updateCount := ticks.length + 1 } := by
  have fits : ¬(tick.rawPositionRad.length ≠ watchdog.jointNames.length ∨
      tick.projectedPositionRad.length ≠ tick.rawPositionRad.length) := by
    rw [shaped.1, shaped.2]
    simp
  have passes : Program.throwIf (tick.rawPositionRad.length ≠ watchdog.jointNames.length ∨
      tick.projectedPositionRad.length ≠ tick.rawPositionRad.length)
      (ClampError.invalid "clamp watchdog positions must be finite joint vectors") counters =
        (.done (), counters) := Program.throwIf_eq_done_iff.mpr ⟨fits, rfl⟩
  unfold update
  rw [Program.bind_apply_done passes,
    Program.bind_apply_done (Program.modify_apply _ _),
    Program.bind_apply_done (Program.get_apply _), reached.updateCount, Program.runIf]
  by_cases ignored : ticks.length < watchdog.ignoredInitialTicks.toNat
  · rw [if_pos ignored, if_neg (by simp only [not_not]; omega)]
    rfl
  · rw [if_neg ignored, if_pos (by have := watchdog.ignoredRange.1; push_cast; omega)]

/-- Without a full streak the update returns, and the counters are those of one tick more. -/
theorem update_done (shaped : watchdog.Shaped tick) (reached : watchdog.Reached ticks counters)
    (calm : ¬watchdog.FullStreak (ticks ++ [tick])) :
    ∃ next, watchdog.update tick counters = (.done (), next) ∧
      watchdog.Reached (ticks ++ [tick]) next := by
  rw [update_apply shaped reached]
  by_cases ignored : ticks.length < watchdog.ignoredInitialTicks.toNat
  · rw [if_pos ignored]
    have before : watchdog.watched ticks = [] :=
      List.drop_eq_nil_of_le ignored.le
    refine ⟨_, rfl, ?_⟩
    constructor
    · simp
    · intro name member
      rw [watched_snoc_of_lt ignored, ← before]
      exact reached.consecutive name member
    · intro name member
      rw [watched_snoc_of_lt ignored, ← before]
      exact reached.maximum name member
  · rw [if_neg ignored]
    have passed := not_lt.mp ignored
    have below : ∀ name ∈ watchdog.watchedJointNames, ¬watchdog.maximumConsecutiveTicks ≤
        watchdog.counted tick { counters with updateCount := ticks.length + 1 } name := by
      intro name member full
      exact calm ((fullStreak_snoc_iff passed reached).mpr ⟨name, member, full⟩)
    refine ⟨_, forEach_observe_done watchdog.watchedUnique.2 below, ?_⟩
    have count {name : String} (member : name ∈ watchdog.watchedJointNames) :
        watchdog.counted tick { counters with updateCount := ticks.length + 1 } name =
          streak (watchdog.Over name) (watchdog.watched (ticks ++ [tick])) := by
      rw [watched_snoc_of_le passed, streak_append_singleton, counted]
      exact congrArg (streakStep _ · tick) (reached.consecutive name member)
    constructor
    · simp [observed]
    · intro name member
      rw [← count member, observed_consecutive member]
    · intro name member
      rw [observed_maximum member, count member, watched_snoc_of_le passed]
      exact (reached.maximum name member).snoc tick

theorem update_tripped (shaped : watchdog.Shaped tick) (reached : watchdog.Reached ticks counters)
    (full : watchdog.FullStreak (ticks ++ [tick])) :
    ∃ name ∈ watchdog.watchedJointNames, ∃ overshoot consecutive final,
      watchdog.update tick counters = (.thrown (.tripped name overshoot consecutive), final) := by
  have passed : ¬ticks.length < watchdog.ignoredInitialTicks.toNat :=
    fun ignored => not_fullStreak_of_lt ignored full
  rw [update_apply shaped reached, if_neg passed]
  exact forEach_observe_thrown watchdog.watchedUnique.2
    ((fullStreak_snoc_iff (not_lt.mp passed) reached).mp full)

/-- Ticks that all returned have no full streak at any of them. -/
theorem run_done (shaped : ∀ tick ∈ ticks, watchdog.Shaped tick)
    (returned : Program.forEach ticks watchdog.update initial = (.done (), counters)) :
    watchdog.Reached ticks counters ∧ ∀ front, front <+: ticks → ¬watchdog.FullStreak front := by
  induction ticks using List.reverseRecOn generalizing counters with
  | nil =>
      cases returned
      refine ⟨reached_initial watchdog, ?_⟩
      intro front inside
      rw [List.prefix_nil.mp inside]
      exact not_fullStreak_nil
  | append_singleton ticks tick induction =>
      rw [Program.forEach_append] at returned
      obtain ⟨_, middle, first, last⟩ := Program.bind_eq_done returned
      obtain ⟨_, next, ran, nothing⟩ := Program.bind_eq_done last
      cases nothing
      obtain ⟨reached, calm⟩ := induction (fun other member => shaped other (by simp [member])) first
      have here := shaped tick (by simp)
      have quiet : ¬watchdog.FullStreak (ticks ++ [tick]) := by
        intro full
        obtain ⟨_, _, _, _, _, thrown⟩ := update_tripped here reached full
        rw [ran] at thrown
        cases thrown
      obtain ⟨other, same, kept⟩ := update_done here reached quiet
      rw [ran] at same
      cases same
      refine ⟨kept, ?_⟩
      intro front inside
      rcases List.prefix_concat_iff.mp inside with rfl | earlier
      · exact quiet
      · exact calm front earlier

/-- Ticks without a full streak at any of them all return. -/
theorem run_calm (shaped : ∀ tick ∈ ticks, watchdog.Shaped tick)
    (calm : ∀ front, front <+: ticks → ¬watchdog.FullStreak front) :
    ∃ counters, Program.forEach ticks watchdog.update initial = (.done (), counters) := by
  induction ticks using List.reverseRecOn with
  | nil => exact ⟨initial, rfl⟩
  | append_singleton ticks tick induction =>
      have before : ∀ tick ∈ ticks, watchdog.Shaped tick :=
        fun other member => shaped other (by simp [member])
      obtain ⟨counters, first⟩ := induction before fun front inside =>
        calm front (inside.trans (List.prefix_append ticks [tick]))
      obtain ⟨next, ran, _⟩ := update_done (shaped tick (by simp)) (run_done before first).1
        (calm _ (List.prefix_refl _))
      refine ⟨next, ?_⟩
      rw [Program.forEach_append, Program.bind_apply_done first, Program.forEach,
        Program.bind_apply_done ran]
      rfl

end ConsecutiveClampWatchdog

/-- **The watchdog trips exactly on a full streak.**  The updates before a tick return and its
own raises exactly when it is the first one at which a watched joint was over in all of the last
ticks, after the ignored ones; until then the counters report the longest runs. -/
theorem clampWatchdog_trips_iff (watchdog : ConsecutiveClampWatchdog) (before : List ClampTick)
    (tick : ClampTick) (shaped : ∀ other ∈ before ++ [tick], watchdog.Shaped other) :
    ((∃ counters,
        Program.forEach before watchdog.update ConsecutiveClampWatchdog.initial =
          (.done (), counters) ∧
        ∃ name ∈ watchdog.watchedJointNames, ∃ overshoot consecutive final,
          watchdog.update tick counters =
            (.thrown (.tripped name overshoot consecutive), final)) ↔
      watchdog.FullStreak (before ++ [tick]) ∧
        ∀ front, front <+: before → ¬watchdog.FullStreak front) ∧
    ((∃ counters,
        Program.forEach (before ++ [tick]) watchdog.update ConsecutiveClampWatchdog.initial =
          (.done (), counters)) ↔
      ∀ front, front <+: before ++ [tick] → ¬watchdog.FullStreak front) ∧
    ∀ counters,
      Program.forEach before watchdog.update ConsecutiveClampWatchdog.initial =
        (.done (), counters) →
      ∀ name ∈ watchdog.watchedJointNames,
        IsLongestRun (watchdog.Over name) (watchdog.watched before)
          (counters.maximumObservedConsecutiveTicks name) := by
  have early : ∀ other ∈ before, watchdog.Shaped other :=
    fun other member => shaped other (by simp [member])
  have last := shaped tick (by simp)
  refine ⟨⟨?_, ?_⟩, ⟨?_, ?_⟩, ?_⟩
  · rintro ⟨counters, returned, name, _, overshoot, consecutive, final, thrown⟩
    obtain ⟨reached, calm⟩ := ConsecutiveClampWatchdog.run_done early returned
    refine ⟨?_, calm⟩
    by_contra quiet
    obtain ⟨next, ran, _⟩ := ConsecutiveClampWatchdog.update_done last reached quiet
    rw [thrown] at ran
    cases ran
  · rintro ⟨full, calm⟩
    obtain ⟨counters, returned⟩ := ConsecutiveClampWatchdog.run_calm early calm
    have reached := (ConsecutiveClampWatchdog.run_done early returned).1
    exact ⟨counters, returned, ConsecutiveClampWatchdog.update_tripped last reached full⟩
  · rintro ⟨counters, returned⟩
    exact (ConsecutiveClampWatchdog.run_done shaped returned).2
  · exact ConsecutiveClampWatchdog.run_calm shaped
  · intro counters returned name member
    exact (ConsecutiveClampWatchdog.run_done early returned).1.maximum name member

/-- A watchdog over one joint that trips at once. -/
def hipWatchdog : ConsecutiveClampWatchdog where
  jointNames := ["hip"]
  watchedJointNames := ["hip"]
  minimumOvershootRad := 1 / 10
  maximumConsecutiveTicks := 1
  ignoredInitialTicks := 0
  watchedUnique := by decide
  watchedKnown := by decide
  overshootRange := by decide +kernel
  consecutiveRange := by decide
  ignoredRange := by decide

/-- The first target of the hip is one radian beyond its projection. -/
theorem clampWatchdog_trips_iff_hip :
    ∃ counters, Program.forEach [] hipWatchdog.update ConsecutiveClampWatchdog.initial =
        (.done (), counters) ∧
      ∃ name ∈ ["hip"], ∃ overshoot consecutive final,
        hipWatchdog.update ⟨[1], [0]⟩ counters =
          (.thrown (.tripped name overshoot consecutive), final) := by
  have shaped : ∀ other ∈ [] ++ [(⟨[1], [0]⟩ : ClampTick)], hipWatchdog.Shaped other := by
    intro other member
    rw [List.mem_singleton.mp member]
    exact ⟨rfl, rfl⟩
  have beyond : hipWatchdog.Over "hip" ⟨[1], [0]⟩ := by decide +kernel
  refine (clampWatchdog_trips_iff hipWatchdog [] ⟨[1], [0]⟩ shaped).1.mpr ⟨?_, ?_⟩
  · refine ⟨"hip", List.mem_cons_self, [], [⟨[1], [0]⟩], rfl, rfl, ?_⟩
    intro item member
    rw [List.mem_singleton.mp member]
    exact beyond
  · intro front inside
    rw [List.prefix_nil.mp inside]
    exact ConsecutiveClampWatchdog.not_fullStreak_nil

end SpriteRuntime
