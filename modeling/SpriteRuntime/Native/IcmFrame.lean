import Mathlib.Analysis.SpecialFunctions.Trigonometric.Basic
import Mathlib.Tactic.LinearCombination
import SpriteRuntime.Native.ImuAcceptance
import SpriteRuntime.Native.PolicyFeedback

/-!
# The frame of the ICM sensor

The policy gets the angular velocity and the gravity in the frame of the body, whichever of the
encoder, the validation and the feedback map turns the axes of the sensor.
-/

namespace SpriteRuntime

open Foundation ImuPacket

variable {K : Type} [Field K] [LinearOrder K]

namespace Icm

omit [LinearOrder K] in
/-- `gyro`. -/
def gyro (pi : K) (raw : Fin 6 → Int16) : Fin 3 → K :=
  fun index => ((raw (index.natAdd 3)).toInt : K) * icmGyroScale pi

omit [LinearOrder K] in
/-- `body`. -/
def body (s : Fin 3 → K) : Fin 3 → K := ![-s 2, -s 1, -s 0]

omit [LinearOrder K] in
theorem body_sub (left right : Fin 3 → K) : body (left - right) = body left - body right := by
  funext index
  fin_cases index
  · exact neg_sub' (left 2) (right 2)
  · exact neg_sub' (left 1) (right 1)
  · exact neg_sub' (left 0) (right 0)

end Icm

variable [SquareRoots K] {pi : K} {raw : Fin 6 → Int16} {sensorBias : Fin 3 → K}
  {bodyQ : Fin 4 → K} {sequence start stop : UInt64} {packet : ImuPacket K}

/-- The packet of ICM samples. -/
def icmPacket (pi : K) (raw : Fin 6 → Int16) (sensorBias : Fin 3 → K) (bodyQ : Fin 4 → K)
    (sequence start stop : UInt64) : ImuPacket K :=
  ((written 0x33 sequence start stop ((List.ofFn raw).flatMap countBytes)).putDoubles 56
    (List.ofFn sensorBias)).putDoubles 80 (icmValues pi raw sensorBias bodyQ).list

theorem encodeIcm_eq_ok : encodeIcm pi raw sensorBias bodyQ sequence start stop = .ok packet ↔
    ¬StampFailure sequence start stop ∧
      |bodyQ 0 * bodyQ 0 + bodyQ 1 * bodyQ 1 + bodyQ 2 * bodyQ 2 + bodyQ 3 * bodyQ 3 - 1| ≤
        1 / 10 ^ 6 ∧
      icmPacket pi raw sensorBias bodyQ sequence start stop = packet := by
  simp only [encodeIcm, except_bind_eq_ok, raiseIf_eq_ok, exists_const, not_lt]
  exact and_congr_right fun _ => and_congr_right fun _ => ⟨Except.ok.inj, congrArg _⟩

/-! ## The registers -/

section Registers

theorem length_counts : ((List.ofFn raw).flatMap countBytes).length = 12 := rfl

theorem signed16_icmPacket (index : Fin 6) :
    signed16 (icmPacket pi raw sensorBias bodyQ sequence start stop).raw (2 * index) =
      (raw index).toInt := by
  have bounded := index.isLt
  have length : ((List.ofFn raw).flatMap countBytes).length = 12 := length_counts
  have found : (List.ofFn raw)[(index : ℕ)]? = some (raw index) := by
    rw [List.getElem?_ofFn, dif_pos bounded]
  rw [icmPacket, raw_putDoubles, raw_putDoubles, signed16_written (by omega) (by omega)]
  exact signed16_counts found

theorem acceleration_icmPacket (index : Fin 3) :
    expectedAcceleration true (icmPacket pi raw sensorBias bodyQ sequence start stop).raw index =
      (icmValues pi raw sensorBias bodyQ).acceleration index := by
  have short : signed16 (icmPacket pi raw sensorBias bodyQ sequence start stop).raw (2 * index) =
      (raw (index.castLE (by decide))).toInt := signed16_icmPacket (index.castLE (by decide))
  simp only [expectedAcceleration, if_true, short, icmValues]

theorem gyro_icmPacket (index : Fin 3) :
    expectedGyro pi true (icmPacket pi raw sensorBias bodyQ sequence start stop).raw index -
        (icmPacket pi raw sensorBias bodyQ sequence start stop).bias index =
      (icmValues pi raw sensorBias bodyQ).gyro index := by
  have place : 6 + 2 * (index : ℕ) = 2 * (index.natAdd 3 : Fin 6) := by
    rw [Fin.val_natAdd]
    ring
  have short : signed16 (icmPacket pi raw sensorBias bodyQ sequence start stop).raw
      (6 + 2 * index) = (raw (index.natAdd 3)).toInt := by
    rw [place]
    exact signed16_icmPacket (index.natAdd 3)
  have bias : (icmPacket pi raw sensorBias bodyQ sequence start stop).bias = sensorBias :=
    bias_putDoubles
  simp only [expectedGyro, if_true, short, bias, icmValues]

end Registers

/-! ## The quaternion of the sensor -/

section Sensor

variable [IsStrictOrderedRing K]

/-- The mounting turns a quaternion of norm one into another. -/
theorem sum_sensorQuaternion : ∑ index, sensorQuaternion bodyQ index * sensorQuaternion bodyQ index =
    ∑ index, bodyQ index * bodyQ index := by
  have half : SquareRoots.sqrt (1 / 2 : K) * SquareRoots.sqrt (1 / 2) = 1 / 2 :=
    SquareRoots.mul_self_sqrt (by positivity)
  simp only [Fin.sum_univ_four, sensorQuaternion, Matrix.cons_val]
  linear_combination (2 * (bodyQ 0 * bodyQ 0 + bodyQ 1 * bodyQ 1 + bodyQ 2 * bodyQ 2 +
    bodyQ 3 * bodyQ 3)) * half

/-- The gravity for the quaternion of the sensor points away from the up vector of the body. -/
theorem projectedGravity_sensorQuaternion (unit : ∑ index, bodyQ index * bodyQ index = 1) :
    FeedbackMap.projectedGravity (sensorQuaternion bodyQ) = -upVector bodyQ := by
  have half : SquareRoots.sqrt (1 / 2 : K) * SquareRoots.sqrt (1 / 2) = 1 / 2 :=
    SquareRoots.mul_self_sqrt (by positivity)
  rw [Fin.sum_univ_four] at unit
  set h := SquareRoots.sqrt (1 / 2 : K)
  set w := bodyQ 0
  set x := bodyQ 1
  set y := bodyQ 2
  set z := bodyQ 3
  have first : 1 - 2 * (h * (w - y) * (h * (w - y)) + h * (z + x) * (h * (z + x))) =
      -(2 * (x * z - w * y)) := by
    linear_combination -2 * ((w - y) ^ 2 + (z + x) ^ 2) * half - unit
  have second : 2 * (h * (z + x) * (-h * (w + y)) + h * (w - y) * (h * (z - x))) =
      -(2 * (y * z + w * x)) := by
    linear_combination 2 * ((z - x) * (w - y) - (z + x) * (w + y)) * half
  have third : 2 * (h * (w - y) * (-h * (w + y)) - h * (z + x) * (h * (z - x))) =
      -(1 - 2 * (x * x + y * y)) := by
    linear_combination -2 * ((w - y) * (w + y) + (z + x) * (z - x)) * half - unit
  funext index
  fin_cases index
  · exact first
  · exact second
  · exact third

end Sensor

/-! ## The packet is accepted -/

section Accepted

variable [IsStrictOrderedRing K]

theorem softwareValues_icmPacket (unit : ∑ index, bodyQ index * bodyQ index = 1)
    (small : ∑ index, sensorBias index * sensorBias index ≤ 1 / 100) :
    SoftwareValues pi (icmPacket pi raw sensorBias bodyQ sequence start stop) true := by
  have values : (icmPacket pi raw sensorBias bodyQ sequence start stop).values =
      icmValues pi raw sensorBias bodyQ := values_putDoubles
  have length : ((List.ofFn raw).flatMap countBytes).length = 12 := length_counts
  have turned := sum_sensorQuaternion.trans unit
  rw [Fin.sum_univ_four] at turned
  constructor
  · intro index member
    obtain ⟨place, _, rfl⟩ := List.mem_range'.mp member
    have zero : (written 0x33 sequence start stop ((List.ofFn raw).flatMap countBytes) :
        ImuPacket K).byte (44 + 1 * place) = 0 := byte_written (by omega)
    exact zero
  · exact valuesFinite_putDoubles
  · intro index
    rw [icmPacket, number_bias]
    rfl
  · intro index
    rw [values, acceleration_icmPacket, sub_self, abs_zero]
    positivity
  · intro index
    rw [values, gyro_icmPacket, sub_self, abs_zero]
    positivity
  · rwa [icmPacket, bias_putDoubles]
  · rw [values, icmValues, turned, sub_self, abs_zero]
    positivity
  · intro index
    have gravity : (icmValues pi raw sensorBias bodyQ).gravity index =
        standardGravity * upVector (icmValues pi raw sensorBias bodyQ).quaternion index := by
      fin_cases index
      · exact mul_assoc ..
      · exact mul_assoc ..
      · rfl
    rw [values, gravity, sub_self, abs_zero]
    positivity

/-- A sample keeps its frame: what the policy gets is the gravity and the angular velocity of the
body, however the mounting is undone on the way. -/
theorem icm_frame_consistent (unit : ∑ index, bodyQ index * bodyQ index = 1)
    (small : SquareRoots.sqrt (∑ index, sensorBias index * sensorBias index) ≤ 1 / 10)
    (valid : ¬StampFailure sequence start stop) {now previous : ℕ} (past : stop.toNat ≤ now)
    (fresh : now ≤ start.toNat + 30000000) (ordered : previous ≤ sequence.toNat)
    (softwareFusion : Bool) (feedback : FeedbackMap K) (input : FeedbackInput K) :
    ∃ packet snapshot result,
      encodeIcm pi raw sensorBias bodyQ sequence start stop = .ok packet ∧
      validateImuPacket pi packet now previous softwareFusion true = .ok snapshot ∧
      feedback.convert { input with
        angularVelocity := snapshot.values.gyro
        quaternion := snapshot.values.quaternion } = .ok result ∧
      result.projectedGravity = -upVector bodyQ ∧
      result.angularVelocity = Icm.body (Icm.gyro pi raw) - Icm.body sensorBias := by
  have four := unit
  rw [Fin.sum_univ_four] at four
  have encoded : encodeIcm pi raw sensorBias bodyQ sequence start stop =
      .ok (icmPacket pi raw sensorBias bodyQ sequence start stop) := by
    refine encodeIcm_eq_ok.mpr ⟨valid, ?_, rfl⟩
    rw [four, sub_self, abs_zero]
    positivity
  have header : FreshPacket (icmPacket pi raw sensorBias bodyQ sequence start stop)
      (imuMagic 0x33) now previous :=
    (fresh_written (by rw [length_counts]; decide) valid ordered past fresh).putDoubles.putDoubles
  have checked : SoftwareValues pi (icmPacket pi raw sensorBias bodyQ sequence start stop) true :=
    softwareValues_icmPacket unit (sum_bias_le small)
  have values : (icmPacket pi raw sensorBias bodyQ sequence start stop).values =
      icmValues pi raw sensorBias bodyQ := values_putDoubles
  have accepted := (validateImuPacket_software (Bool.or_true softwareFusion)).mpr
    ⟨header, checked, rfl⟩
  rw [values] at accepted
  have norm : quaternionNorm (sensorQuaternion bodyQ) = 1 := by
    rw [quaternionNorm, sum_sensorQuaternion, unit, SquareRoots.sqrt_one]
  refine ⟨_, _, ⟨_, _, _, _⟩, encoded, accepted,
    FeedbackMap.convert_eq_ok.mpr ⟨?_, rfl, rfl, rfl, rfl⟩, ?_, ?_⟩
  · calc (1 / 1000000000 : K) ≤ 1 := by norm_num
      _ = quaternionNorm (sensorQuaternion bodyQ) := norm.symm
  · have same : (fun index => sensorQuaternion bodyQ index /
        quaternionNorm (sensorQuaternion bodyQ)) = sensorQuaternion bodyQ := by
      funext index
      rw [norm, div_one]
    exact (congrArg FeedbackMap.projectedGravity same).trans
      (projectedGravity_sensorQuaternion unit)
  · exact Icm.body_sub (Icm.gyro pi raw) sensorBias

end Accepted

/-- Counts and a bias of a sensor, and a body that is tilted forwards. -/
def tiltedCounts : Fin 6 → Int16 := ![-8192, 123, -456, 321, -234, 567]

noncomputable def tiltedBias : Fin 3 → ℝ := ![1 / 1000, -2 / 1000, 3 / 1000]

noncomputable def tiltedBody : Fin 4 → ℝ := ![3 / 5, 0, 4 / 5, 0]

theorem icm_frame_consistent_tilted :
    ∃ packet snapshot result,
      encodeIcm Real.pi tiltedCounts tiltedBias tiltedBody 10 1000000000 1000200000 = .ok packet ∧
      validateImuPacket Real.pi packet 1001000000 9 false true = .ok snapshot ∧
      (⟨0, 0⟩ : FeedbackMap ℝ).convert ⟨0, 0, snapshot.values.gyro, snapshot.values.quaternion⟩ =
        .ok result ∧
      result.projectedGravity = -upVector tiltedBody ∧
      result.angularVelocity = Icm.body (Icm.gyro Real.pi tiltedCounts) - Icm.body tiltedBias := by
  have unit : ∑ index, tiltedBody index * tiltedBody index = 1 := by
    simp only [tiltedBody, Fin.sum_univ_four, Matrix.cons_val]
    norm_num
  have small : SquareRoots.sqrt (∑ index, tiltedBias index * tiltedBias index) ≤ 1 / 10 := by
    simp only [tiltedBias, Fin.sum_univ_three, Matrix.cons_val]
    exact Real.sqrt_le_iff.mpr ⟨by norm_num, by norm_num⟩
  exact icm_frame_consistent unit small (by decide) (by decide) (by decide) (by decide) false
    ⟨0, 0⟩ ⟨0, 0, 0, 0⟩

end SpriteRuntime
