import Mathlib.Tactic.FieldSimp
import Mathlib.Tactic.NormNum
import SpriteRuntime.Foundation.Dictionary
import SpriteRuntime.Foundation.Ramp
import SpriteRuntime.Foundation.Ticks

/-!
# The walking command schedule

The robot stands for ten seconds, rises to the speed of its profile, walks, falls back and
stands.  Python and C++ write the five pieces down separately; both are the difference of two
rises, from which the bounds and the slope follow.
-/

namespace SpriteRuntime

open Foundation

/-! ## The two sources -/

/-- `PROFILE` and `PROFILE_010`. -/
def commandProfile : String := "stand-walk-stop-40s"

def commandProfile010 : String := "stand-walk010-stop-40s"

def profileSpeeds : Dictionary ℚ := [(commandProfile, 1 / 20), (commandProfile010, 1 / 10)]

/-- `sample_stand_walk_stop`. -/
def sampleStandWalkStop (elapsedS : ℚ) (profile : String) : Except String (ℚ × String) :=
  match profileSpeeds.get? profile with
  | none => .error "unsupported command profile"
  | some speed =>
      if elapsedS < 0 then .error "elapsed time must be finite and nonnegative"
      else if elapsedS < 10 then .ok (0, "stand")
      else if elapsedS < 13 then
        let x := (elapsedS - 10) / 3
        .ok (speed * x * x * (3 - 2 * x), "ramp_forward")
      else if elapsedS < 27 then .ok (speed, "forward")
      else if elapsedS < 30 then
        let x := (elapsedS - 27) / 3
        .ok (speed * (1 - x * x * (3 - 2 * x)), "ramp_stop")
      else .ok (0, "final_stand")

structure ScheduledCommand where
  vx : ℚ
  stage : String
  deriving DecidableEq

/-- `sample_walk40`. -/
def sampleWalk40 (elapsed speed : ℚ) : Except String ScheduledCommand :=
  if elapsed < 0 ∨ (speed ≠ 1 / 20 ∧ speed ≠ 1 / 10) then
    .error "invalid commissioning schedule"
  else if elapsed < 10 then .ok ⟨0, "stand"⟩
  else if elapsed < 13 then
    let x := (elapsed - 10) / 3
    .ok ⟨speed * x * x * (3 - 2 * x), "ramp_forward"⟩
  else if elapsed < 27 then .ok ⟨speed, "forward"⟩
  else if elapsed < 30 then
    let x := (elapsed - 27) / 3
    .ok ⟨speed * (1 - x * x * (3 - 2 * x)), "ramp_stop"⟩
  else .ok ⟨0, "final_stand"⟩

structure CommandSchedule where
  speed : ℚ
  first : UInt64
  last : UInt64
  started : Bool
  elapsed : ℚ

namespace CommandSchedule

/-- The constructor. -/
def make (profile : String) : Except String CommandSchedule :=
  if profile = "stand-walk010-stop-40s" then .ok ⟨1 / 10, 0, 0, false, 0⟩
  else if profile = "stand-walk-stop-40s" then .ok ⟨1 / 20, 0, 0, false, 0⟩
  else .error "unsupported command profile"

def sample (stateStamp : UInt64) : Program CommandSchedule String ScheduledCommand := do
  let schedule ← Program.get
  Program.throwIf (schedule.started ∧ stateStamp ≤ schedule.last)
    "command schedule timestamp not increasing"
  Program.runIf (¬schedule.started)
    (Program.modify fun schedule => { schedule with first := stateStamp, started := true })
  Program.modify fun schedule => { schedule with last := stateStamp }
  Program.modify fun schedule =>
    { schedule with elapsed := ((stateStamp - schedule.first).toNat : ℚ) / 10 ^ 9 }
  let schedule ← Program.get
  Program.ofExcept (sampleWalk40 schedule.elapsed schedule.speed)

end CommandSchedule

/-! ## The shape of the schedule -/

/-- The speed as the difference of the two rises. -/
def walkSpeed (speed elapsed : ℚ) : ℚ :=
  speed * (rise ((elapsed - 10) / 3) - rise ((elapsed - 27) / 3))

/-- The name of the piece. -/
def walkStage (elapsed : ℚ) : String :=
  if elapsed < 10 then "stand"
  else if elapsed < 13 then "ramp_forward"
  else if elapsed < 27 then "forward"
  else if elapsed < 30 then "ramp_stop"
  else "final_stand"

section Shape

variable {speed elapsed earlier later : ℚ}

theorem walkSpeed_stand (before : elapsed < 10) : walkSpeed speed elapsed = 0 := by
  have first : (elapsed - 10) / 3 ≤ 0 := by linarith
  have second : (elapsed - 27) / 3 ≤ 0 := by linarith
  rw [walkSpeed, rise_of_nonpos first, rise_of_nonpos second, sub_self, mul_zero]

theorem walkSpeed_rampForward (after : 10 ≤ elapsed) (before : elapsed < 13) :
    walkSpeed speed elapsed = speed * smoothstep ((elapsed - 10) / 3) := by
  have lower : 0 ≤ (elapsed - 10) / 3 := by linarith
  have upper : (elapsed - 10) / 3 ≤ 1 := by linarith
  have second : (elapsed - 27) / 3 ≤ 0 := by linarith
  rw [walkSpeed, rise_of_mem lower upper, rise_of_nonpos second, sub_zero]

theorem walkSpeed_forward (after : 13 ≤ elapsed) (before : elapsed < 27) :
    walkSpeed speed elapsed = speed := by
  have first : 1 ≤ (elapsed - 10) / 3 := by linarith
  have second : (elapsed - 27) / 3 ≤ 0 := by linarith
  rw [walkSpeed, rise_of_one_le first, rise_of_nonpos second, sub_zero, mul_one]

theorem walkSpeed_rampStop (after : 27 ≤ elapsed) (before : elapsed < 30) :
    walkSpeed speed elapsed = speed * (1 - smoothstep ((elapsed - 27) / 3)) := by
  have first : 1 ≤ (elapsed - 10) / 3 := by linarith
  have lower : 0 ≤ (elapsed - 27) / 3 := by linarith
  have upper : (elapsed - 27) / 3 ≤ 1 := by linarith
  rw [walkSpeed, rise_of_one_le first, rise_of_mem lower upper]

theorem walkSpeed_finalStand (after : 30 ≤ elapsed) : walkSpeed speed elapsed = 0 := by
  have first : 1 ≤ (elapsed - 10) / 3 := by linarith
  have second : 1 ≤ (elapsed - 27) / 3 := by linarith
  rw [walkSpeed, rise_of_one_le first, rise_of_one_le second, sub_self, mul_zero]

/-- The stop comes after the start, so the difference is never negative. -/
theorem walkSpeed_mem (positive : 0 ≤ speed) (elapsed : ℚ) :
    0 ≤ walkSpeed speed elapsed ∧ walkSpeed speed elapsed ≤ speed := by
  have order : (elapsed - 27) / 3 ≤ (elapsed - 10) / 3 := by linarith
  have started := rise_mono order
  have low := rise_nonneg ((elapsed - 27) / 3)
  have high := rise_le_one ((elapsed - 10) / 3)
  constructor
  · apply mul_nonneg positive
    linarith
  · apply mul_le_of_le_one_right positive
    linarith

/-- Both rises move up by at most half the time between, so their difference does not move by
more either way. -/
theorem walkSpeed_sub_le (positive : 0 ≤ speed) (ordered : earlier ≤ later) :
    |walkSpeed speed later - walkSpeed speed earlier| ≤ speed / 2 * (later - earlier) := by
  have first : (earlier - 10) / 3 ≤ (later - 10) / 3 := by linarith
  have second : (earlier - 27) / 3 ≤ (later - 27) / 3 := by linarith
  have startUp := rise_mono first
  have startSlope := rise_sub_le first
  have stopUp := rise_mono second
  have stopSlope := rise_sub_le second
  have difference : walkSpeed speed later - walkSpeed speed earlier =
      speed * ((rise ((later - 10) / 3) - rise ((earlier - 10) / 3)) -
        (rise ((later - 27) / 3) - rise ((earlier - 27) / 3))) := by
    unfold walkSpeed
    ring
  rw [difference, abs_mul, abs_of_nonneg positive, div_mul_eq_mul_div, mul_div_assoc]
  apply mul_le_mul_of_nonneg_left _ positive
  rw [abs_le]
  constructor
  · linarith
  · linarith

theorem walkSpeed_lipschitz (positive : 0 ≤ speed) (earlier later : ℚ) :
    |walkSpeed speed later - walkSpeed speed earlier| ≤ speed / 2 * |later - earlier| := by
  rcases le_total earlier later with ordered | ordered
  · rw [abs_of_nonneg (sub_nonneg.mpr ordered)]
    exact walkSpeed_sub_le positive ordered
  · rw [abs_sub_comm, abs_sub_comm later, abs_of_nonneg (sub_nonneg.mpr ordered)]
    exact walkSpeed_sub_le positive ordered

end Shape

/-! ## Both sources have this shape -/

section Sources

variable {profile : String} {speed elapsed : ℚ}

/-- The speeds that the schedule accepts. -/
def IsProfileSpeed (speed : ℚ) : Prop := speed = 1 / 20 ∨ speed = 1 / 10

theorem IsProfileSpeed.nonneg (allowed : IsProfileSpeed speed) : 0 ≤ speed := by
  rcases allowed with rfl | rfl <;> norm_num

theorem sampleWalk40_eq (allowed : IsProfileSpeed speed) (nonneg : 0 ≤ elapsed) :
    sampleWalk40 elapsed speed = .ok ⟨walkSpeed speed elapsed, walkStage elapsed⟩ := by
  have accepted : ¬(elapsed < 0 ∨ (speed ≠ 1 / 20 ∧ speed ≠ 1 / 10)) := by
    rintro (negative | ⟨slow, fast⟩)
    · exact absurd nonneg (not_le.mpr negative)
    · exact allowed.elim slow fast
  rw [sampleWalk40, if_neg accepted, walkStage]
  split_ifs with stand forward walk stop
  · rw [walkSpeed_stand stand]
  · rw [walkSpeed_rampForward (not_lt.mp stand) forward, smoothstep, ← mul_assoc, ← mul_assoc]
  · rw [walkSpeed_forward (not_lt.mp forward) walk]
  · rw [walkSpeed_rampStop (not_lt.mp walk) stop, smoothstep]
  · rw [walkSpeed_finalStand (not_lt.mp stop)]

theorem sampleStandWalkStop_eq (known : profileSpeeds.get? profile = some speed)
    (nonneg : 0 ≤ elapsed) :
    sampleStandWalkStop elapsed profile = .ok (walkSpeed speed elapsed, walkStage elapsed) := by
  rw [sampleStandWalkStop, known]
  dsimp only
  rw [if_neg (not_lt.mpr nonneg), walkStage]
  split_ifs with stand forward walk stop
  · rw [walkSpeed_stand stand]
  · rw [walkSpeed_rampForward (not_lt.mp stand) forward, smoothstep, ← mul_assoc, ← mul_assoc]
  · rw [walkSpeed_forward (not_lt.mp forward) walk]
  · rw [walkSpeed_rampStop (not_lt.mp walk) stop, smoothstep]
  · rw [walkSpeed_finalStand (not_lt.mp stop)]

theorem profileSpeeds_eq_some_iff :
    profileSpeeds.get? profile = some speed ↔
      profile = "stand-walk010-stop-40s" ∧ speed = 1 / 10 ∨
        profile = "stand-walk-stop-40s" ∧ speed = 1 / 20 := by
  by_cases fast : profile = "stand-walk010-stop-40s"
  · subst fast
    have known : profileSpeeds.get? "stand-walk010-stop-40s" = some (1 / 10) := by decide +kernel
    simp [known, eq_comm]
  · by_cases slow : profile = "stand-walk-stop-40s"
    · subst slow
      have known : profileSpeeds.get? "stand-walk-stop-40s" = some (1 / 20) := by decide +kernel
      simp [known, eq_comm]
    · have unknown : profileSpeeds.get? profile = none := by
        apply Dictionary.get?_eq_none
        simp [Dictionary.keys, profileSpeeds, commandProfile, commandProfile010, fast, slow]
      simp [unknown, fast, slow]

theorem isProfileSpeed_of_get? (known : profileSpeeds.get? profile = some speed) :
    IsProfileSpeed speed := by
  rcases profileSpeeds_eq_some_iff.mp known with ⟨_, fast⟩ | ⟨_, slow⟩
  · exact .inr fast
  · exact .inl slow

/-- Both sides know the same two profiles. -/
theorem make_eq_ok_iff {schedule : CommandSchedule} :
    CommandSchedule.make profile = .ok schedule ↔
      ∃ speed, profileSpeeds.get? profile = some speed ∧
        schedule = ⟨speed, 0, 0, false, 0⟩ := by
  unfold CommandSchedule.make
  constructor
  · intro made
    split_ifs at made with fast slow
    · cases made
      exact ⟨_, profileSpeeds_eq_some_iff.mpr (.inl ⟨fast, rfl⟩), rfl⟩
    · cases made
      exact ⟨_, profileSpeeds_eq_some_iff.mpr (.inr ⟨slow, rfl⟩), rfl⟩
  · rintro ⟨speed, known, rfl⟩
    rcases profileSpeeds_eq_some_iff.mp known with ⟨rfl, rfl⟩ | ⟨rfl, rfl⟩ <;> rfl

end Sources

/-! ## A run over state stamps -/

namespace CommandSchedule

variable {schedule : CommandSchedule} {stamp : UInt64}

theorem sample_refused (started : schedule.started = true) (late : stamp ≤ schedule.last) :
    sample stamp schedule =
      (.thrown "command schedule timestamp not increasing", schedule) := by
  unfold sample
  rw [Program.bind_apply_done (Program.get_apply schedule), Program.throwIf,
    if_pos ⟨started, late⟩]
  rfl

theorem sample_first (fresh : schedule.started = false) :
    sample stamp schedule =
      Program.ofExcept (sampleWalk40 (((stamp - stamp).toNat : ℚ) / 10 ^ 9) schedule.speed)
        ⟨schedule.speed, stamp, stamp, true, ((stamp - stamp).toNat : ℚ) / 10 ^ 9⟩ := by
  unfold sample
  rw [Program.bind_apply_done (Program.get_apply schedule), Program.throwIf,
    if_neg (by simp [fresh]), Program.runIf, if_pos (by simp [fresh])]
  rfl

theorem sample_later (started : schedule.started = true) (increased : schedule.last < stamp) :
    sample stamp schedule =
      Program.ofExcept
        (sampleWalk40 (((stamp - schedule.first).toNat : ℚ) / 10 ^ 9) schedule.speed)
        ⟨schedule.speed, schedule.first, stamp, true,
          ((stamp - schedule.first).toNat : ℚ) / 10 ^ 9⟩ := by
  unfold sample
  rw [Program.bind_apply_done (Program.get_apply schedule), Program.throwIf,
    if_neg fun refused => absurd increased (UInt64.not_lt.mpr refused.2), Program.runIf,
    if_neg (by simp [started])]
  obtain ⟨speed, first, last, started', elapsed⟩ := schedule
  cases started
  rfl

/-- The schedule after some stamps: it keeps the first, and the greatest is the last that it
has accepted. -/
structure Reached (speed : ℚ) (before : List UInt64) (schedule : CommandSchedule) : Prop where
  speed_eq : schedule.speed = speed
  fresh : before = [] → schedule.started = false
  started : before ≠ [] → schedule.started = true
  first : before ≠ [] → before.head? = some schedule.first
  last : before ≠ [] → schedule.last ∈ before
  greatest : ∀ stamp ∈ before, stamp ≤ schedule.last

/-- What a call answers after some stamps. -/
def Answers (speed : ℚ) (before : List UInt64) (stamp : UInt64)
    (outcome : Outcome String ScheduledCommand) : Prop :=
  (∃ earlier ∈ before, stamp ≤ earlier) ∧
      outcome = .thrown "command schedule timestamp not increasing" ∨
    (∀ earlier ∈ before, earlier < stamp) ∧
      ∃ first command, (before ++ [stamp]).head? = some first ∧
        sampleWalk40 (((stamp.toNat : ℚ) - first.toNat) / 10 ^ 9) speed = .ok command ∧
        outcome = .done command

/-- The time since the first stamp, without wrapping. -/
theorem elapsed_eq {first : UInt64} (ordered : first ≤ stamp) :
    ((stamp - first).toNat : ℚ) / 10 ^ 9 = ((stamp.toNat : ℚ) - first.toNat) / 10 ^ 9 := by
  rw [UInt64.toNat_sub_of_le stamp first ordered, Nat.cast_sub (UInt64.le_iff_toNat_le.mp ordered)]

variable {speed : ℚ} {before : List UInt64}

theorem answers_accepted (allowed : IsProfileSpeed speed)
    (increased : ∀ earlier ∈ before, earlier < stamp) {first : UInt64}
    (head : (before ++ [stamp]).head? = some first) (ordered : first ≤ stamp) :
    ∃ command, sampleWalk40 (((stamp - first).toNat : ℚ) / 10 ^ 9) speed = .ok command ∧
      Answers speed before stamp (.done command) := by
  have nonneg : 0 ≤ ((stamp - first).toNat : ℚ) / 10 ^ 9 := by positivity
  have sampled := sampleWalk40_eq allowed nonneg
  refine ⟨_, sampled, .inr ⟨increased, first, _, head, ?_, rfl⟩⟩
  rw [← elapsed_eq ordered]
  exact sampled

/-- One call: it answers as it should, and the schedule remembers the stamp if it was greater
than all before. -/
theorem sample_step (allowed : IsProfileSpeed speed) (before : List UInt64)
    (schedule : CommandSchedule) (stamp : UInt64) (reached : Reached speed before schedule) :
    Answers speed before stamp (sample stamp schedule).1 ∧
      Reached speed (before ++ [stamp]) (sample stamp schedule).2 := by
  by_cases empty : before = []
  · subst empty
    obtain ⟨command, sampled, answer⟩ :=
      answers_accepted allowed (by simp) (rfl : ([] ++ [stamp]).head? = some stamp)
        (UInt64.le_refl stamp)
    rw [sample_first (reached.fresh rfl), reached.speed_eq, sampled]
    refine ⟨answer, ?_⟩
    constructor <;> simp [Program.ofExcept, pure]
  · have started := reached.started empty
    have last := reached.last empty
    have head : (before ++ [stamp]).head? = some schedule.first := by
      rw [List.head?_append, reached.first empty]
      rfl
    by_cases late : stamp ≤ schedule.last
    · rw [sample_refused started late]
      refine ⟨.inl ⟨⟨schedule.last, last, late⟩, rfl⟩, ?_⟩
      constructor
      · exact reached.speed_eq
      · simp
      · exact fun _ => started
      · exact fun _ => head
      · exact fun _ => List.mem_append_left _ last
      · intro other member
        rcases List.mem_append.mp member with old | new
        · exact reached.greatest other old
        · rw [List.mem_singleton.mp new]
          exact late
    · have increased : ∀ earlier ∈ before, earlier < stamp := fun earlier member =>
        UInt64.lt_of_le_of_lt (reached.greatest earlier member) (UInt64.not_le.mp late)
      have firstMember : schedule.first ∈ before :=
        List.mem_of_head? (reached.first empty)
      obtain ⟨command, sampled, answer⟩ :=
        answers_accepted allowed increased head (UInt64.le_of_lt (increased _ firstMember))
      rw [sample_later started (UInt64.not_le.mp late), reached.speed_eq, sampled]
      refine ⟨answer, ?_⟩
      constructor
      · rfl
      · simp
      · exact fun _ => rfl
      · exact fun _ => head
      · simp [Program.ofExcept, pure]
      · intro other member
        rcases List.mem_append.mp member with old | new
        · exact UInt64.le_of_lt (increased other old)
        · rw [List.mem_singleton.mp new]
          exact UInt64.le_refl stamp

/-- A schedule as the constructor leaves it has seen no stamp. -/
theorem reached_nil (speed : ℚ) : Reached speed [] ⟨speed, 0, 0, false, 0⟩ := by
  constructor <;> simp

end CommandSchedule

/-- **The walking schedule is safe and the same on both sides.**  Python and C++ give the same
speed and stage, the speed stays in its range with a bounded slope, and over any stamps a call
raises exactly when its stamp is not above all before. -/
theorem commandSchedule_safe {profile : String} {schedule : CommandSchedule}
    (made : CommandSchedule.make profile = .ok schedule) :
    (∀ elapsed, 0 ≤ elapsed → ∃ command,
      sampleWalk40 elapsed schedule.speed = .ok command ∧
      sampleStandWalkStop elapsed profile = .ok (command.vx, command.stage) ∧
      0 ≤ command.vx ∧ command.vx ≤ schedule.speed ∧
      (elapsed < 10 ∨ 30 ≤ elapsed → command.vx = 0)) ∧
    (∀ s t first second, sampleWalk40 s schedule.speed = .ok first →
      sampleWalk40 t schedule.speed = .ok second →
        |second.vx - first.vx| ≤ schedule.speed / 2 * |t - s|) ∧
    ∀ (stamps : List UInt64) (index : ℕ) (stamp : UInt64), stamps[index]? = some stamp →
      ∃ outcome,
        (Program.answers CommandSchedule.sample stamps schedule)[index]? = some outcome ∧
        CommandSchedule.Answers schedule.speed (stamps.take index) stamp outcome := by
  obtain ⟨speed, known, rfl⟩ := make_eq_ok_iff.mp made
  have allowed := isProfileSpeed_of_get? known
  refine ⟨?_, ?_, ?_⟩
  · intro elapsed nonneg
    have range := walkSpeed_mem allowed.nonneg elapsed
    refine ⟨_, sampleWalk40_eq allowed nonneg, sampleStandWalkStop_eq known nonneg, range.1,
      range.2, ?_⟩
    rintro (early | late)
    · exact walkSpeed_stand early
    · exact walkSpeed_finalStand late
  · intro s t first second atFirst atSecond
    have nonneg {elapsed : ℚ} {command : ScheduledCommand}
        (sampled : sampleWalk40 elapsed speed = .ok command) : 0 ≤ elapsed := by
      by_contra negative
      rw [sampleWalk40, if_pos (.inl (not_le.mp negative))] at sampled
      cases sampled
    rw [sampleWalk40_eq allowed (nonneg atFirst)] at atFirst
    rw [sampleWalk40_eq allowed (nonneg atSecond)] at atSecond
    cases atFirst
    cases atSecond
    exact walkSpeed_lipschitz allowed.nonneg s t
  · intro stamps index stamp given
    exact Program.answers_law (CommandSchedule.sample_step allowed)
      (CommandSchedule.reached_nil speed) given

/-- The slow profile, halfway up its first ramp. -/
theorem commandSchedule_safe_slow :
    ∃ command, sampleWalk40 (23 / 2) (1 / 20) = .ok command ∧
      sampleStandWalkStop (23 / 2) "stand-walk-stop-40s" = .ok (command.vx, command.stage) ∧
      0 ≤ command.vx ∧ command.vx ≤ 1 / 20 := by
  have made : CommandSchedule.make "stand-walk-stop-40s" = .ok ⟨1 / 20, 0, 0, false, 0⟩ := rfl
  obtain ⟨command, cpp, python, low, high, _⟩ :=
    (commandSchedule_safe made).1 (23 / 2) (by norm_num)
  exact ⟨command, cpp, python, low, high⟩

end SpriteRuntime
