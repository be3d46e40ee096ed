import SpriteRuntime.Runtime.SystemIdMerge

/-!
# When the merge is causal

The age of an entry is right at every tick.  The value is not at the ticks before the first
frame of its motor: the clipped index makes that first frame the value of ticks that it was
recorded after.
-/

namespace SpriteRuntime

open Foundation

variable {α : Type} {decode : CanRow → α} {rows : List CanRow} {policyNs : List ℤ}
  {targetNs : ℤ} {cell : Cell α}

/-- What the entry of a tick is if it comes from the latest frame at or before the tick, and
is missing exactly without one. -/
structure Causal (decode : CanRow → α) (rows : List CanRow) (targetNs : ℤ) (cell : Cell α) :
    Prop where
  present : ∀ row, IsLatest CanRow.monotonicReceiveNs rows targetNs row →
    cell = ⟨some (decode row), some (ageMs targetNs row.monotonicReceiveNs)⟩
  absent : (∀ row ∈ rows, targetNs < row.monotonicReceiveNs) → cell = ⟨none, none⟩
  nonnegative : ∀ age, cell.ageMs = some age → 0 ≤ age

/-- The frames of a motor start at or before the first tick, if it has any. -/
def StartsInTime (rows : List CanRow) (policyNs : List ℤ) : Prop :=
  rows = [] ∨ ∃ row ∈ rows, ∀ targetNs ∈ policyNs, row.monotonicReceiveNs ≤ targetNs

/-! ## One entry -/

section Entry

theorem ageMs_nonneg {sampleNs : ℤ} (ordered : sampleNs ≤ targetNs) :
    0 ≤ ageMs targetNs sampleNs := by
  have difference : (0 : ℚ) ≤ ((targetNs - sampleNs : ℤ) : ℚ) := by
    exact_mod_cast sub_nonneg.mpr ordered
  unfold ageMs
  positivity

private theorem latestIndices_of_none {sampleNs : List ℤ}
    (none : searchSortedRight sampleNs targetNs = 0) :
    latestIndices sampleNs targetNs = (0, Option.none) := by
  simp [latestIndices, none]

private theorem latestIndices_of_some {sampleNs : List ℤ} {index : ℕ}
    (found : searchSortedRight sampleNs targetNs = index + 1) :
    latestIndices sampleNs targetNs =
      (index, some (ageMs targetNs (sampleNs.getD index 0))) := by
  simp [latestIndices, found]

/-- With a frame at or before the tick the entry is the decoding of the latest one. -/
theorem mergeCell_eq (decode : CanRow → α) (reached : ∃ row ∈ rows, row.monotonicReceiveNs ≤ targetNs) :
    ∃ row, IsLatest CanRow.monotonicReceiveNs rows targetNs row ∧
      mergeCell decode (sortedBy CanRow.monotonicReceiveNs rows) targetNs =
        ⟨some (decode row), some (ageMs targetNs row.monotonicReceiveNs)⟩ := by
  have positive : searchSortedRight
      ((sortedBy CanRow.monotonicReceiveNs rows).map CanRow.monotonicReceiveNs) targetNs ≠ 0 := by
    intro zero
    obtain ⟨row, member, early⟩ := reached
    exact absurd early (not_le.mpr (searchSortedRight_eq_zero.mp zero row member))
  obtain ⟨index, found⟩ := Nat.exists_eq_succ_of_ne_zero positive
  obtain ⟨row, here, latest⟩ := isLatest_of_searchSortedRight found
  refine ⟨row, latest, ?_⟩
  simp [mergeCell, latestIndices_of_some found, here]

/-- Without one it has no age, and the first frame as its value. -/
theorem mergeCell_eq_future (decode : CanRow → α) (some : rows ≠ [])
    (future : ∀ row ∈ rows, targetNs < row.monotonicReceiveNs) :
    ∃ row ∈ rows,
      mergeCell decode (sortedBy CanRow.monotonicReceiveNs rows) targetNs =
        ⟨Option.some (decode row), none⟩ := by
  obtain ⟨row, rest, sorted⟩ :=
    List.exists_cons_of_ne_nil (mt (sortedBy_eq_nil CanRow.monotonicReceiveNs rows).mp some)
  have member : row ∈ rows := by
    rw [← mem_sortedBy CanRow.monotonicReceiveNs rows, sorted]
    exact List.mem_cons_self
  refine ⟨row, member, ?_⟩
  simp only [mergeCell, latestIndices_of_none (searchSortedRight_eq_zero.mpr future)]
  simp [sorted]

theorem causal_mergeCell (reached : ∃ row ∈ rows, row.monotonicReceiveNs ≤ targetNs) :
    Causal decode rows targetNs
      (mergeCell decode (sortedBy CanRow.monotonicReceiveNs rows) targetNs) := by
  obtain ⟨latest, isLatest, same⟩ := mergeCell_eq decode reached
  rw [same]
  constructor
  · intro row found
    rw [isLatest.unique found]
  · intro future
    obtain ⟨row, member, early⟩ := reached
    exact absurd early (not_le.mpr (future row member))
  · intro age found
    obtain rfl := Option.some.inj found
    exact ageMs_nonneg isLatest.1

theorem not_causal_mergeCell (some : rows ≠ [])
    (future : ∀ row ∈ rows, targetNs < row.monotonicReceiveNs) :
    ¬Causal decode rows targetNs
      (mergeCell decode (sortedBy CanRow.monotonicReceiveNs rows) targetNs) := by
  intro causal
  obtain ⟨row, _, same⟩ := mergeCell_eq_future decode some future
  have missing := causal.absent future
  rw [same] at missing
  cases missing

theorem causal_missing : Causal decode [] targetNs ⟨none, none⟩ := by
  constructor
  · rintro row ⟨_, before, after, split, _⟩
    simp at split
  · exact fun _ => rfl
  · intro age found
    cases found

end Entry

/-! ## The columns of a motor -/

theorem forall_mem_mergeSamples {holds : ℤ → Cell α → Prop} (some : rows ≠ []) :
    List.Forall₂ holds policyNs (mergeSamples decode rows policyNs) ↔
      ∀ targetNs ∈ policyNs, holds targetNs
        (mergeCell decode (sortedBy CanRow.monotonicReceiveNs rows) targetNs) := by
  have assigned : rows.isEmpty = false := by simpa using some
  rw [mergeSamples, assigned, if_neg (by simp), List.forall₂_map_right_iff, List.forall₂_same]

/-- The entries of a motor are causal exactly if its frames start in time. -/
theorem causal_mergeSamples_iff (increasing : policyNs.IsChain (· < ·))
    (ticking : policyNs ≠ []) :
    List.Forall₂ (Causal decode rows) policyNs (mergeSamples decode rows policyNs) ↔
      StartsInTime rows policyNs := by
  by_cases none : rows = []
  · subst none
    refine iff_of_true ?_ (Or.inl rfl)
    rw [mergeSamples, if_pos List.isEmpty_nil, List.forall₂_map_right_iff, List.forall₂_same]
    exact fun _ _ => causal_missing
  · rw [forall_mem_mergeSamples none]
    obtain ⟨first, rest, split⟩ := List.exists_cons_of_ne_nil ticking
    constructor
    · intro causal
      by_contra late
      apply not_causal_mergeCell none _ (causal first (by simp [split]))
      intro row member
      by_contra early
      apply late
      refine Or.inr ⟨row, member, fun targetNs tick => (not_lt.mp early).trans ?_⟩
      -- the first tick is the earliest one
      rw [split, List.isChain_iff_pairwise, List.pairwise_cons] at increasing
      rw [split] at tick
      rcases List.mem_cons.mp tick with rfl | later
      · exact le_refl _
      · exact (increasing.1 targetNs later).le
    · rintro (absent | ⟨row, member, early⟩) targetNs tick
      · exact absurd absent none
      · exact causal_mergeCell ⟨row, member, early targetNs tick⟩

/-! ## The merged trace -/

/-- Every entry of both columns of a motor is causal. -/
structure MotorColumns.Causal (trace : CanTrace) (policyNs : List ℤ) (motor : SystemIdMotor)
    (columns : MotorColumns) : Prop where
  name : columns.name = motor.name
  feedback : List.Forall₂
    (SpriteRuntime.Causal (decodeFeedbackRow motor.ranges) (motor.feedbackRows trace))
    policyNs columns.feedback
  command : List.Forall₂
    (SpriteRuntime.Causal (decodeCommandRow motor.ranges) (motor.commandRows trace))
    policyNs columns.command

theorem mergeMotor_causal_iff {trace : CanTrace} {motor : SystemIdMotor}
    (increasing : policyNs.IsChain (· < ·)) (ticking : policyNs ≠ []) :
    (mergeMotor trace policyNs motor).Causal trace policyNs motor ↔
      StartsInTime (motor.feedbackRows trace) policyNs ∧
        StartsInTime (motor.commandRows trace) policyNs := by
  constructor
  · intro causal
    exact ⟨(causal_mergeSamples_iff increasing ticking).mp causal.feedback,
      (causal_mergeSamples_iff increasing ticking).mp causal.command⟩
  · rintro ⟨feedback, command⟩
    constructor
    · rfl
    · exact (causal_mergeSamples_iff increasing ticking).mpr feedback
    · exact (causal_mergeSamples_iff increasing ticking).mpr command

/-- What an accepted merge has checked and made. -/
theorem mergeSystemIdTraces_eq_ok {trace : CanTrace} {hardware : Hardware}
    {merged : MergedTrace × MergeReport} :
    mergeSystemIdTraces trace policyNs hardware = .ok merged ↔
      (policyNs ≠ [] ∧ policyNs.IsChain (· < ·)) ∧
        trace.interfaceNames = hardware.interfaces ∧
        (∀ row ∈ trace.rows, row.payload.length = 64) ∧
        ∃ motors, motorRecords hardware = .ok motors ∧ motors ≠ [] ∧
          merged = (⟨policyNs, motors.map (mergeMotor trace policyNs)⟩,
            mergeReport trace policyNs (motors.map (mergeMotor trace policyNs))) := by
  unfold mergeSystemIdTraces
  by_cases vector : policyNs ≠ [] ∧ policyNs.IsChain (· < ·)
  · by_cases order : trace.interfaceNames = hardware.interfaces
    · by_cases shape : ∀ row ∈ trace.rows, row.payload.length = 64
      · rw [if_neg (by tauto), if_neg (by tauto), if_neg (by push Not; exact shape)]
        simp only [except_bind_eq_ok, and_iff_right vector, and_iff_right order,
          and_iff_right shape]
        apply exists_congr
        intro motors
        apply and_congr_right
        intro _
        cases motors with
        | nil => simp
        | cons motor rest => simp [eq_comm]
      · rw [if_neg (by tauto), if_neg (by tauto), if_pos (by push Not at shape; exact shape)]
        simp [shape]
    · rw [if_neg (by tauto), if_pos order]
      simp [order]
  · rw [if_pos (by tauto)]
    simp [vector]

/-- The motors that are merged are those of the motor map. -/
theorem mem_motorRecords {hardware : Hardware} {motors : List SystemIdMotor}
    (checked : motorRecords hardware = .ok motors) {motor : SystemIdMotor} :
    motor ∈ motors ↔ (motor.name, MotorRecord.mk motor.channel motor.canId motor.masterId
      (some motor.ranges)) ∈ hardware.motorMap ∧
      0 ≤ motor.channel ∧ motor.channel < hardware.interfaces.length := by
  rw [mem_of_mapM_eq_ok checked]
  simp only [mem_sortedBy, checkMotorRecord]
  constructor
  · rintro ⟨⟨name, record⟩, member, accepted⟩
    split at accepted
    · cases accepted
    · rename_i inside
      split at accepted
      · cases accepted
      · rename_i ranges present
        obtain rfl := Except.ok.inj accepted
        rcases record with ⟨canChannel, canId, masterId, mitRanges⟩
        obtain rfl : mitRanges = some ranges := present
        exact ⟨member, not_not.mp inside⟩
  · rintro ⟨member, inside⟩
    exact ⟨_, member, by simp [inside]⟩

/-- `merge_system_id_traces` is causal exactly if the frames of every motor start in time. -/
theorem mergeSystemIdTraces_causal_iff {trace : CanTrace} {hardware : Hardware}
    {merged : MergedTrace × MergeReport}
    (ok : mergeSystemIdTraces trace policyNs hardware = .ok merged) :
    ∃ motors, motorRecords hardware = .ok motors ∧
      ((merged.1.policyMonotonicNs = policyNs ∧
          List.Forall₂ (MotorColumns.Causal trace policyNs) motors merged.1.columns) ↔
        ∀ motor ∈ motors, StartsInTime (motor.feedbackRows trace) policyNs ∧
          StartsInTime (motor.commandRows trace) policyNs) := by
  obtain ⟨⟨ticking, increasing⟩, _, _, motors, checked, _, rfl⟩ := mergeSystemIdTraces_eq_ok.mp ok
  refine ⟨motors, checked, ?_⟩
  simp only [true_and, List.forall₂_map_right_iff, List.forall₂_same]
  constructor
  · intro causal motor member
    exact (mergeMotor_causal_iff increasing ticking).mp (causal motor member)
  · intro starts motor member
    exact (mergeMotor_causal_iff increasing ticking).mpr (starts motor member)

/-! ## One motor, one feedback frame and two ticks -/

def hipMotor : SystemIdMotor := ⟨"hip", 0, 1, 17, ⟨(-12, 12), (-20, 20), (-28, 28)⟩⟩

def hipHardware : Hardware :=
  { interfaces := ["kcan1"]
    motorMap := [("hip", ⟨0, 1, 17, some hipMotor.ranges⟩)] }

/-- A trace with one feedback frame of the motor. -/
def hipTrace (receivedNs : ℤ) : CanTrace :=
  { interfaceNames := ["kcan1"]
    rows := [⟨receivedNs, 0, 17, 8, List.replicate 64 0⟩] }

def hipTicks : List ℤ := [100, 200]

theorem startsInTime_hipTrace {receivedNs : ℤ} (early : receivedNs ≤ 100) :
    StartsInTime (hipMotor.feedbackRows (hipTrace receivedNs)) hipTicks ∧
      StartsInTime (hipMotor.commandRows (hipTrace receivedNs)) hipTicks := by
  constructor
  · refine Or.inr ⟨_, List.mem_singleton_self _, ?_⟩
    intro targetNs tick
    simp only [hipTicks, List.mem_cons, List.not_mem_nil, or_false] at tick
    rcases tick with rfl | rfl
    · exact early
    · exact early.trans (by decide)
  · exact Or.inl rfl

theorem motorRecords_hipHardware : motorRecords hipHardware = .ok [hipMotor] := by
  simp [motorRecords, sortedBy, hipHardware, checkMotorRecord, hipMotor]

theorem exists_merged_hipTrace (receivedNs : ℤ) :
    ∃ merged, mergeSystemIdTraces (hipTrace receivedNs) hipTicks hipHardware = .ok merged := by
  refine ⟨_, mergeSystemIdTraces_eq_ok.mpr ⟨?_, rfl, ?_, [hipMotor], motorRecords_hipHardware,
    by simp, rfl⟩⟩
  · decide
  · simp [hipTrace]

theorem mergeSystemIdTraces_causal_hipTrace :
    ∃ merged motors, mergeSystemIdTraces (hipTrace 90) hipTicks hipHardware = .ok merged ∧
      merged.1.policyMonotonicNs = hipTicks ∧
      List.Forall₂ (MotorColumns.Causal (hipTrace 90) hipTicks) motors merged.1.columns := by
  obtain ⟨merged, ok⟩ := exists_merged_hipTrace 90
  obtain ⟨motors, checked, causal⟩ := mergeSystemIdTraces_causal_iff ok
  obtain rfl : [hipMotor] = motors :=
    Except.ok.inj (motorRecords_hipHardware.symm.trans checked)
  refine ⟨merged, _, ok, causal.mpr ?_⟩
  intro motor member
  rw [List.mem_singleton.mp member]
  exact startsInTime_hipTrace (by decide)

/-- The value at the tick 100 is that of the frame at 195. -/
theorem mergeSystemIdTraces_not_causal :
    ∃ merged, mergeSystemIdTraces (hipTrace 195) hipTicks hipHardware = .ok merged ∧
      ¬List.Forall₂ (MotorColumns.Causal (hipTrace 195) hipTicks) [hipMotor]
        merged.1.columns := by
  obtain ⟨merged, ok⟩ := exists_merged_hipTrace 195
  refine ⟨merged, ok, fun causal => ?_⟩
  obtain ⟨⟨ticking, increasing⟩, _, _, motors, checked, _, rfl⟩ :=
    mergeSystemIdTraces_eq_ok.mp ok
  obtain rfl : [hipMotor] = motors :=
    Except.ok.inj (motorRecords_hipHardware.symm.trans checked)
  cases causal with
  | cons first _ =>
      rcases (causal_mergeSamples_iff increasing ticking).mp first.feedback with
        none | ⟨row, member, early⟩
      · cases none
      · obtain rfl := List.mem_singleton.mp member
        exact absurd (early 100 (by decide)) (by decide)

end SpriteRuntime
