import Mathlib.Data.Rat.Floor
import SpriteRuntime.Runtime.AnklePairCommissioning
import SpriteRuntime.Runtime.SingleJointHold

/-!
# Powered gates are contained

The hold of a group, the joint PD gate of a pair and the hold of a single joint each have their
own code around the motors.  Whatever their writer raises, all three return a report after three
attempts to disable every motor.
-/

namespace SpriteRuntime

open Foundation

/-- Once its arguments are accepted, every gate returns a report on every writer and every
advancing clock: there are at least three attempts to disable every selected motor, all of them
after the last attempt to enable one, and a report without errors in which every motor is disabled
is the only kind that passes. -/
theorem poweredGates_contained (world : GateWorld) (advances : world.Advances) :
    (∀ hold : GroupHold, hold.validate world = .ok () →
        Contained (hold.run world) (.start {}) hold.names MotorGroupHoldReport.Passed
          MotorGroupHoldReport.errors fun report name => (report.finalStatus.get? name).join) ∧
      (∀ gate : PairGate, gate.validate world = .ok () →
        Contained (gate.run world) (.start {}) gate.names AnkleJointPdReport.Passed
          AnkleJointPdReport.errors fun report name => (report.finalStatus.get? name).join) ∧
      ∀ hold : SingleJointHold, hold.validate = .ok () →
        Contained (hold.run world) (.start {}) [hold.motorName] SingleJointHoldReport.Passed
          SingleJointHoldReport.errors fun report _ => report.finalStatus :=
  ⟨fun _ valid => GroupHold.run_contained advances valid,
    fun _ valid => PairGate.run_contained advances valid,
    fun _ valid => SingleJointHold.run_contained advances valid⟩

/-! ## A writer that raises at every call -/

section Broken

/-- Every call of the writer raises, and a reading of the clock is its number. -/
def brokenGateWorld : GateWorld where
  interface := "kcan1"
  attemptNames := []
  clock call := call
  send _ := .raised "network is down" true
  receive _ := .raised "network is down"
  encodeErrorText _ := "refused"

theorem brokenGateWorld_advances : brokenGateWorld.Advances where
  monotone _ _ ordered := Nat.cast_le.mpr ordered
  unbounded bound := ⟨⌈bound⌉₊, Nat.le_ceil bound⟩

/-- A motor with the ranges of the hip. -/
def hipLike (identity : String × String × ℤ × ℤ)
    (named : identity.1 ≠ "" ∧ identity.2.1 ≠ "") (canIdRange : 0 ≤ identity.2.2.1 ∧
      identity.2.2.1 ≤ 0xF) (masterIdRange : 0 ≤ identity.2.2.2 ∧ identity.2.2.2 ≤ 0x7FF) :
    DamiaoFeedbackEndpoint where
  motorName := identity.1
  interface := identity.2.1
  canId := identity.2.2.1
  masterId := identity.2.2.2
  ranges := hipRanges
  named := named
  canIdRange := canIdRange
  masterIdRange := masterIdRange

def waistHold : GroupHold :=
  waistGroupLowGainHold
    [hipLike ("waist_yaw_motor", "kcan1", 7, 0x17) (by decide) (by decide) (by decide),
      hipLike ("waist_roll_motor", "kcan1", 8, 0x18) (by decide) (by decide) (by decide)]
    [("waist_yaw_motor", -1, 1), ("waist_roll_motor", -1, 1)]

/-- A pair whose motors follow the two joints. -/
def plainAnklePair : DifferentialPairDriveMap ℚ where
  name := .leftAnkle
  motorNames := ![leftAnkleGroup.1.1, leftAnkleGroup.2.1]
  driveZeroRad := 0
  encoderSign := 1
  coupling :=
    { jointToMotorMatrix := 1
      motorZeroRad := 0
      regular := by norm_num }
  distinct := by decide
  encoder := fun _ => .inr rfl

def ankleHold : PairGate where
  endpoints :=
    [hipLike leftAnkleGroup.1 (by decide) (by decide) (by decide),
      hipLike leftAnkleGroup.2 (by decide) (by decide) (by decide)]
  pair := plainAnklePair
  mechanism := "left"
  expected := leftAnkleGroup
  softPositionRad := [(leftAnkleGroup.1.1, -1, 1), (leftAnkleGroup.2.1, -1, 1)]
  jointKp := 1 / 2
  jointKd := 1 / 20
  maximumJointTorque := 15 / 100
  maximumMotorTorque := 1 / 4
  maximumMotorVelocity := 3 / 10
  maximumMotorPositionDrift := 8 / 100
  maximumJointPositionError := 8 / 100

def headYawHold : SingleJointHold where
  endpoint := hipLike ("head_yaw_motor", "kcan3", 8, 0x18) (by decide) (by decide) (by decide)
  softPositionRad := (-1, 1)

theorem poweredGates_contained_broken :
    Contained (waistHold.run brokenGateWorld) (.start {}) waistHold.names
        MotorGroupHoldReport.Passed MotorGroupHoldReport.errors
        (fun report name => (report.finalStatus.get? name).join) ∧
      Contained (ankleHold.run brokenGateWorld) (.start {}) ankleHold.names
        AnkleJointPdReport.Passed AnkleJointPdReport.errors
        (fun report name => (report.finalStatus.get? name).join) ∧
      Contained (headYawHold.run brokenGateWorld) (.start {}) [headYawHold.motorName]
        SingleJointHoldReport.Passed SingleJointHoldReport.errors
        fun report _ => report.finalStatus := by
  obtain ⟨groups, pairs, singles⟩ :=
    poweredGates_contained brokenGateWorld brokenGateWorld_advances
  exact ⟨groups waistHold (by decide +kernel), pairs ankleHold (by decide +kernel),
    singles headYawHold (by decide +kernel)⟩

end Broken

end SpriteRuntime
