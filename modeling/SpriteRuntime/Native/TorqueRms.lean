import Mathlib.Algebra.Order.BigOperators.Group.List
import SpriteRuntime.Foundation.SlidingSum
import SpriteRuntime.Native.Feedback

/-!
# The torque RMS monitor

`update_torque_rms_monitor` keeps a window of one second and one of ten seconds by
adding and subtracting squares.  After any number of samples both windows are what
their definition says.
-/

namespace SpriteRuntime

open Foundation

/-- `reset_torque_rms_monitor`, and then one update for each sample. -/
def monitorTorques (squareRoot : ℚ → ℚ) (descriptor : MotorDescriptor) (motor : MotorState)
    (torques : List ℚ) : MotorState :=
  torques.foldl (fun motor torque => updateTorqueRmsMonitor squareRoot descriptor torque motor)
    (resetTorqueRmsMonitor motor)

/-- The squares of the last `size` samples. -/
def lastSquares (size : ℕ) (torques : List ℚ) : List ℚ :=
  (torques.rtake size).map fun torque => torque * torque

def rootMeanSquare (squareRoot : ℚ → ℚ) (torques : List ℚ) : ℚ :=
  squareRoot ((torques.map fun torque => torque * torque).sum / torques.length)

/-- The greatest root mean square of a full window, and zero without one. -/
def maximumRms (squareRoot : ℚ → ℚ) (size : ℕ) (torques : List ℚ) : ℚ :=
  ((windows size torques).map (rootMeanSquare squareRoot)).max?.getD 0

section Window

variable {squareRoot : ℚ → ℚ} {size : ℕ} {torques : List ℚ}

theorem lastSquares_sum_nonneg : 0 ≤ (lastSquares size torques).sum := by
  apply List.sum_nonneg
  intro square member
  obtain ⟨torque, _, rfl⟩ := List.mem_map.mp member
  exact mul_self_nonneg torque

theorem length_lastSquares : (lastSquares size torques).length = min torques.length size := by
  rw [lastSquares, List.length_map, length_rtake]

/-- One step of a window that holds the last squares and their sum. -/
theorem updateWindow_lastSquares (torque : ℚ) :
    updateWindow (torque * torque) size (lastSquares size torques)
        (lastSquares size torques).sum =
      (lastSquares size (torques ++ [torque]), (lastSquares size (torques ++ [torque])).sum) := by
  have kept : (lastSquares size torques ++ [torque * torque]).rtake size =
      lastSquares size (torques ++ [torque]) := by
    have mapped : lastSquares size torques ++ [torque * torque] =
        (torques.rtake size ++ [torque]).map fun torque => torque * torque := by
      rw [List.map_append, List.map_singleton, lastSquares]
    rw [mapped, lastSquares, ← rtake_append_singleton, List.rtake, List.length_map,
      ← List.map_drop, ← List.rtake]
  have dropped := sum_drop
    ((lastSquares size torques ++ [torque * torque]).length - size)
    (lastSquares size torques ++ [torque * torque])
  rw [List.sum_append, List.sum_singleton] at dropped
  rw [← kept, updateWindow, List.rtake, dropped]

theorem windowRms_lastSquares :
    windowRms squareRoot (lastSquares size torques, (lastSquares size torques).sum) =
      rootMeanSquare squareRoot (torques.rtake size) := by
  rw [windowRms, max_eq_right lastSquares_sum_nonneg, rootMeanSquare, lastSquares,
    List.length_map]

/-- The step of a maximum that is taken when the window is full. -/
theorem maximumRms_append_singleton (rootNonneg : ∀ value, 0 ≤ value → 0 ≤ squareRoot value)
    (torque : ℚ) :
    maximumRms squareRoot size (torques ++ [torque]) =
      if (lastSquares size (torques ++ [torque])).length = size then
        max (maximumRms squareRoot size torques)
          (windowRms squareRoot (lastSquares size (torques ++ [torque]),
            (lastSquares size (torques ++ [torque])).sum))
      else maximumRms squareRoot size torques := by
  have length : (torques ++ [torque]).length = torques.length + 1 := by simp
  rw [length_lastSquares, length, windowRms_lastSquares]
  by_cases full : size ≤ torques.length + 1
  · have nonneg : 0 ≤ rootMeanSquare squareRoot ((torques ++ [torque]).rtake size) := by
      apply rootNonneg
      apply div_nonneg _ (Nat.cast_nonneg _)
      exact @lastSquares_sum_nonneg size (torques ++ [torque])
    rw [if_pos (min_eq_right full), maximumRms, windows_append_singleton full, List.map_append,
      List.map_singleton, max?_append_singleton_getD nonneg, ← maximumRms]
  · have short : min (torques.length + 1) size ≠ size := by omega
    rw [if_neg short, maximumRms, maximumRms, windows_eq_nil (by omega),
      windows_eq_nil (by omega)]

end Window

/-- The monitor holds what the definitions say about the samples so far. -/
structure Monitors (squareRoot : ℚ → ℚ) (rate : ℕ) (torques : List ℚ)
    (monitor : TorqueRmsMonitor) : Prop where
  shortSamples : monitor.shortTorqueSquaredSamples = lastSquares rate torques
  longSamples : monitor.longTorqueSquaredSamples = lastSquares (10 * rate) torques
  shortSum : monitor.shortTorqueSquaredSum = (lastSquares rate torques).sum
  longSum : monitor.longTorqueSquaredSum = (lastSquares (10 * rate) torques).sum
  shortMaximum : monitor.maximumShortTorqueRms = maximumRms squareRoot rate torques
  longMaximum : monitor.maximumLongTorqueRms = maximumRms squareRoot (10 * rate) torques

section Monitor

variable {squareRoot : ℚ → ℚ} {descriptor : MotorDescriptor} {motor : MotorState}
  {torques : List ℚ}

theorem Monitors.reset {rate : ℕ} (positive : 0 < rate) :
    Monitors squareRoot rate [] (resetTorqueRmsMonitor motor).torqueRms where
  shortSamples := by simp [resetTorqueRmsMonitor, lastSquares]
  longSamples := by simp [resetTorqueRmsMonitor, lastSquares]
  shortSum := by simp [resetTorqueRmsMonitor, lastSquares]
  longSum := by simp [resetTorqueRmsMonitor, lastSquares]
  shortMaximum := by
    rw [maximumRms, windows_eq_nil (by simpa using positive)]
    rfl
  longMaximum := by
    rw [maximumRms, windows_eq_nil (by simpa using positive)]
    rfl

theorem Monitors.update (rootNonneg : ∀ value, 0 ≤ value → 0 ≤ squareRoot value)
    (monitors : Monitors squareRoot descriptor.pollRateHz.toNat torques motor.torqueRms)
    (torque : ℚ) :
    Monitors squareRoot descriptor.pollRateHz.toNat (torques ++ [torque])
      (updateTorqueRmsMonitor squareRoot descriptor torque motor).torqueRms := by
  obtain ⟨shortSamples, longSamples, shortSum, longSum, shortMaximum, longMaximum⟩ := monitors
  simp only [updateTorqueRmsMonitor, shortSamples, longSamples, shortSum, longSum, shortMaximum,
    longMaximum, updateWindow_lastSquares]
  constructor
  case shortMaximum => rw [maximumRms_append_singleton rootNonneg]
  case longMaximum => rw [maximumRms_append_singleton rootNonneg]
  all_goals rfl

theorem Monitors.run (rootNonneg : ∀ value, 0 ≤ value → 0 ≤ squareRoot value)
    (positive : 0 < descriptor.pollRateHz.toNat) :
    Monitors squareRoot descriptor.pollRateHz.toNat torques
      (monitorTorques squareRoot descriptor motor torques).torqueRms := by
  induction torques using List.reverseRecOn with
  | nil => exact Monitors.reset positive
  | append_singleton torques torque induction =>
      rw [monitorTorques, List.foldl_append, List.foldl_cons, List.foldl_nil]
      exact induction.update rootNonneg torque

end Monitor

/-- **The RMS monitor.**  After a reset and any samples, the two windows hold the squares
of the last samples and their sums, the two maxima are the maxima over all full windows,
and the guard against a negative sum changes nothing. -/
theorem torqueRmsMonitor_eq_windowed (squareRoot : ℚ → ℚ) (descriptor : MotorDescriptor)
    (motor : MotorState) (torques : List ℚ)
    (rootNonneg : ∀ value, 0 ≤ value → 0 ≤ squareRoot value)
    (positive : 0 < descriptor.pollRateHz) :
    Monitors squareRoot descriptor.pollRateHz.toNat torques
        (monitorTorques squareRoot descriptor motor torques).torqueRms ∧
      max 0 (monitorTorques squareRoot descriptor motor torques).torqueRms.shortTorqueSquaredSum =
        (monitorTorques squareRoot descriptor motor torques).torqueRms.shortTorqueSquaredSum ∧
      max 0 (monitorTorques squareRoot descriptor motor torques).torqueRms.longTorqueSquaredSum =
        (monitorTorques squareRoot descriptor motor torques).torqueRms.longTorqueSquaredSum := by
  have monitors : Monitors squareRoot descriptor.pollRateHz.toNat torques
      (monitorTorques squareRoot descriptor motor torques).torqueRms :=
    Monitors.run rootNonneg (by omega)
  refine ⟨monitors, ?_, ?_⟩
  · rw [monitors.shortSum]
    exact max_eq_right lastSquares_sum_nonneg
  · rw [monitors.longSum]
    exact max_eq_right lastSquares_sum_nonneg

/-- A motor at 50 Hz whose short window has been full for ten samples. -/
theorem torqueRmsMonitor_eq_windowed_steady :
    Monitors (fun value => Nat.sqrt ⌊value⌋₊) 50 (List.replicate 60 3)
        (monitorTorques (fun value => Nat.sqrt ⌊value⌋₊) MotorDescriptor.testMotor {}
          (List.replicate 60 3)).torqueRms :=
  (torqueRmsMonitor_eq_windowed (fun value => Nat.sqrt ⌊value⌋₊) MotorDescriptor.testMotor {}
    (List.replicate 60 3) (fun _ _ => Nat.cast_nonneg _) (by decide)).1

end SpriteRuntime
