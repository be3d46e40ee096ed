import SpriteRuntime.Foundation.InPlace
import SpriteRuntime.Runtime.HardwareConfig

/-!
# Updates of the hardware contract

The limits of a report, or the ranges that were read back from the drives, are written into the
motor records of the inventory.  The records are changed in place, one after the other, and the
values of a motor are checked just before its record is written.
-/

namespace SpriteRuntime

open Foundation

variable (strings : PythonStrings)

/-! ## Reading an entry -/

namespace PyFloat

/-- `math.isfinite`. -/
def isFinite (number : PyFloat) : Bool := number.finite?.isSome

/-- `left < right`. -/
def below : PyFloat → PyFloat → Bool
  | finite left, finite right => left < right
  | finite _, infinite negative => !negative
  | infinite negative, finite _ => negative
  | infinite left, infinite right => left && !right
  | _, _ => false

/-- `-number`. -/
def negate : PyFloat → PyFloat
  | finite number => finite (-number)
  | infinite negative => infinite (!negative)
  | nan => nan

end PyFloat

namespace Value

/-- `value[key]` with a text. -/
def subscript (key : String) : Value → Except PyException Value
  | dict entries => item entries key
  | _ => .error .typeError

/-- `[float(number) for number in value]`. -/
def numbers (value : Value) : Except PyException (List PyFloat) := do
  (← value.toTuple).mapM (Value.toFloat strings)

end Value

/-- `numbers[index]`. -/
def numberAt (numbers : List PyFloat) (index : ℕ) : Except PyException PyFloat :=
  match numbers[index]? with
  | some number => .ok number
  | none => .error .indexError

/-- `hard[0] < soft[0] < soft[1] < hard[1]`. -/
def strictlyNested (hard soft : List PyFloat) : Except PyException Bool := do
  let hardLow ← numberAt hard 0
  let softLow ← numberAt soft 0
  if hardLow.below softLow then
    let softHigh ← numberAt soft 1
    if softLow.below softHigh then
      let hardHigh ← numberAt hard 1
      return softHigh.below hardHigh
    else return false
  else return false

/-- The limits of one motor, checked. -/
def candidateLimits (limits : List (String × Value)) (motorName : String) :
    Except PyException (List PyFloat × List PyFloat) := do
  let candidate ← item limits motorName
  let hard ← (← candidate.subscript "hard_limit_rad_candidate").numbers strings
  let soft ← (← candidate.subscript "soft_limit_rad_candidate").numbers strings
  raiseIf ((hard ++ soft).all PyFloat.isFinite = false)
    (.valueError s!"non-finite limit for {motorName}")
  let nested ← strictlyNested hard soft
  raiseIf (nested = false) (.valueError s!"limits are not strictly nested for {motorName}")
  return (hard, soft)

/-- The ranges of one motor, checked. -/
def readbackRanges (motors : List (String × Value)) (motorName : String) :
    Except PyException (PyFloat × PyFloat × PyFloat) := do
  let values ← item motors motorName
  let pmax ← (← values.subscript "PMAX").toFloat strings
  let vmax ← (← values.subscript "VMAX").toFloat strings
  let tmax ← (← values.subscript "TMAX").toFloat strings
  raiseIf (([pmax, vmax, tmax].all fun value =>
      value.isFinite && (PyFloat.finite 0).below value) = false)
    (.valueError s!"invalid MIT range readback for {motorName}")
  return (pmax, vmax, tmax)

/-! ## Writing a record -/

/-- `record[key] = value`. -/
def assign (key : String) (value : Value) : Program Value PyException Unit
  | .dict entries => (.done (), .dict (setItem entries key value))
  | record => (.thrown .typeError, record)

/-- `motor_map` of the inventory, or nothing when it is not a dictionary. -/
def motorMapOf (hardware : List (String × Value)) : List (String × Value) :=
  (part hardware "motor_map").getD []

/-- A dictionary whose value under a name was changed in place. -/
def mutateField (name : String) (changed : Value) : List (String × Value) → List (String × Value)
  | [] => []
  | (key, value) :: rest =>
      if name == key then (key, changed) :: rest else (key, value) :: mutateField name changed rest

/-- The loop over `motor_map.items()`. -/
def updateMotors (increment : ℤ) (body : String → Program Value PyException Unit) :
    Program (List (String × Value)) PyException ℤ :=
  Program.zoom motorMapOf (fun motorMap => mutateField "motor_map" (.dict motorMap))
    (Program.updateEach increment body 0)

/-- `sorted(set(left) - set(right))`. -/
def missingNames (left right : List (String × Value)) : List String :=
  sortedNames ((left.map Prod.fst).filter (· ∉ right.map Prod.fst))

/-- Both updates look whether the report has exactly the motors of the inventory, and go through
them. -/
def updateCovered (table : Option (List (String × Value))) (notObjects : String)
    (mismatch : List (String × Value) → List (String × Value) → String) (increment : ℤ)
    (body : List (String × Value) → String → Program Value PyException Unit) :
    Program (List (String × Value)) PyException ℤ := do
  let hardware ← Program.get
  match table, part hardware "motor_map" with
  | some table, some motorMap => do
      Program.throwIf (sameNames (table.map Prod.fst) (motorMap.map Prod.fst) = false)
        (.valueError (mismatch table motorMap))
      updateMotors increment (body table)
  | _, _ => Program.throw (.valueError notObjects)

/-! ## The two updates -/

section Updates

variable (digest : List (String × Value) → String) (reprNames : List String → String)
  (report : List (String × Value))

def limitFields (hard soft : List PyFloat) : List (String × Value) :=
  [("hard_limit_rad", .list (hard.map .float)), ("soft_limit_rad", .list (soft.map .float))]

/-- `record["limit_provenance"]`. -/
def limitProvenance (softMargin : Value) : Value :=
  .dict [("source", .str "contract_pinned_urdf_design_limits"),
    ("report_content_sha256", .str (digest report)),
    ("soft_margin_rad_each_joint_boundary", softMargin),
    ("physical_hard_stop_measured", .bool false),
    ("runtime_role", .str "conservative software guard")]

/-- The body of the loop of `apply_limit_candidates`. -/
def updateLimits (limits : List (String × Value)) (motorName : String) :
    Program Value PyException Unit := do
  let (hard, soft) ← Program.ofExcept (candidateLimits strings limits motorName)
  assign "hard_limit_rad" (.list (hard.map .float))
  assign "soft_limit_rad" (.list (soft.map .float))
  let softMargin ← Program.ofExcept (item report "soft_margin_rad_each_joint_boundary")
  assign "limit_provenance" (limitProvenance digest report softMargin)

/-- `apply_limit_candidates`. -/
def applyLimitCandidates : Program (List (String × Value)) PyException ℤ := do
  Program.throwIf
    ((field report "mode").isText "offline_urdf_limit_derivation_no_hardware_io" = false)
    (.valueError "unexpected limit report mode")
  updateCovered (part report "motor_limits")
    "limit report and hardware motor_map must be objects"
    (fun limits motorMap => "limit motor set mismatch: missing=" ++
      reprNames (missingNames motorMap limits) ++ ", extra=" ++
      reprNames (missingNames limits motorMap))
    2 (updateLimits strings digest report)

/-- `record["mit_ranges"]`. -/
def mitRangesRecord (evidenceReport : String) (ranges : PyFloat × PyFloat × PyFloat) : Value :=
  let (pmax, vmax, tmax) := ranges
  .dict [("position_rad", .list [.float pmax.negate, .float pmax]),
    ("velocity_rad_s", .list [.float vmax.negate, .float vmax]),
    ("kp", .list [.float (.finite 0), .float (.finite 500)]),
    ("kd", .list [.float (.finite 0), .float (.finite 5)]),
    ("torque_nm", .list [.float tmax.negate, .float tmax]),
    ("source", .str "motor_register_readback"),
    ("evidence_report", .str evidenceReport),
    ("report_content_sha256", .str (digest report))]

/-- The body of the loop of `apply_mit_range_readback`. -/
def updateRanges (evidenceReport : String) (motors : List (String × Value)) (motorName : String) :
    Program Value PyException Unit := do
  let ranges ← Program.ofExcept (readbackRanges strings motors motorName)
  assign "mit_ranges" (mitRangesRecord digest report evidenceReport ranges)

/-- `apply_mit_range_readback`. -/
def applyMitRangeReadback (evidenceReport : String) :
    Program (List (String × Value)) PyException ℤ := do
  Program.throwIf
    ((field report "mode").isText "read_only_damiao_mit_range_register_audit" = false)
    (.valueError "unexpected MIT range report mode")
  Program.throwIf ((field report "passed").isTrue = false)
    (.valueError "MIT range report did not pass")
  Program.throwIf (["write_register_attempts", "enable_attempts", "mode_switch_attempts"].any
      fun key => !(field report key).isNumber 0)
    (.valueError "MIT range report contains prohibited TX attempts")
  updateCovered (part report "motors") "report motors and hardware motor_map must be objects"
    (fun _ _ => "MIT range report must exactly cover the hardware motor map")
    1 (updateRanges strings digest report evidenceReport)

end Updates

/-! ## Assigned fields -/

section Fields

variable {α : Type} {entries : List (String × α)} {key other : String} {value changed old : α}

/-- A dictionary that has the key, with this value. -/
def HasItem (entries : List (String × α)) (key : String) (value : α) : Prop :=
  key ∈ entries.map Prod.fst ∧ ∀ entry ∈ entries, entry.1 = key → entry.2 = value

/-- Several assignments, in order. -/
def setItems (entries fields : List (String × α)) : List (String × α) :=
  fields.foldl (fun entries field => setItem entries field.1 field.2) entries

theorem setItem_eq_self_iff : setItem entries key value = entries ↔ HasItem entries key value := by
  by_cases present : key ∈ entries.map Prod.fst
  · have assigned : setItem entries key value =
        entries.map fun entry => if entry.1 = key then (key, value) else entry := if_pos present
    have identity : setItem entries key value = entries ↔
        ∀ entry ∈ entries, (if entry.1 = key then (key, value) else entry) = id entry := by
      rw [assigned, ← List.map_inj_left, List.map_id]
    rw [identity, HasItem]
    constructor
    · intro same
      refine ⟨present, fun entry member here => ?_⟩
      have kept := same entry member
      rw [if_pos here] at kept
      exact (congrArg Prod.snd kept).symm
    · rintro ⟨-, holds⟩ entry member
      by_cases here : entry.1 = key
      · rw [if_pos here, ← here, ← holds entry member here]
        rfl
      · rw [if_neg here]
        rfl
  · rw [keys_setItem_of_fresh present]
    constructor
    · intro same
      simp at same
    · intro holds
      exact absurd holds.1 present

theorem hasItem_setItem : HasItem (setItem entries key value) key value := by
  by_cases present : key ∈ entries.map Prod.fst
  · have assigned : setItem entries key value =
        entries.map fun entry => if entry.1 = key then (key, value) else entry := if_pos present
    rw [assigned]
    obtain ⟨entry, member, here⟩ := List.mem_map.mp present
    constructor
    · rw [List.map_map]
      apply List.mem_map.mpr
      refine ⟨entry, member, ?_⟩
      simp [here]
    · intro result inResult same
      obtain ⟨source, -, rfl⟩ := List.mem_map.mp inResult
      by_cases match_key : source.1 = key
      · rw [if_pos match_key]
      · rw [if_neg match_key] at same
        exact absurd same match_key
  · rw [keys_setItem_of_fresh present]
    constructor
    · simp
    · intro entry member here
      rcases List.mem_append.mp member with old | new
      · exact absurd (here ▸ List.mem_map_of_mem old) present
      · rw [List.mem_singleton.mp new]

theorem hasItem_setItem_of_ne (different : other ≠ key) :
    HasItem (setItem entries other changed) key value ↔ HasItem entries key value := by
  by_cases present : other ∈ entries.map Prod.fst
  · have assigned : setItem entries other changed =
        entries.map fun entry => if entry.1 = other then (other, changed) else entry :=
      if_pos present
    rw [assigned, HasItem, HasItem]
    apply and_congr
    · have keys : (entries.map fun entry =>
          if entry.1 = other then (other, changed) else entry).map Prod.fst =
            entries.map Prod.fst := by
        rw [List.map_map]
        apply List.map_congr_left
        intro entry _
        by_cases here : entry.1 = other <;> simp [here]
      rw [keys]
    · constructor
      · intro holds entry member here
        have elsewhere : entry.1 ≠ other := by
          rw [here]
          exact different.symm
        apply holds entry _ here
        apply List.mem_map.mpr
        exact ⟨entry, member, if_neg elsewhere⟩
      · intro holds result inResult here
        obtain ⟨source, member, rfl⟩ := List.mem_map.mp inResult
        by_cases elsewhere : source.1 = other
        · rw [if_pos elsewhere] at here
          exact absurd here different
        · rw [if_neg elsewhere] at here ⊢
          exact holds source member here
  · rw [keys_setItem_of_fresh present]
    have elsewhere : ∀ entry ∈ [(other, changed)], entry.1 ≠ key := by simpa using different
    rw [HasItem, HasItem, List.map_append, List.mem_append, List.forall_mem_append]
    have none : key ∉ [(other, changed)].map Prod.fst := by simpa using different.symm
    simp only [none, or_false, and_congr_right_iff, and_iff_left_iff_imp]
    intro _ _ entry member here
    exact absurd here (elsewhere entry member)

theorem hasItem_setItems_of_fresh {fields : List (String × α)}
    (fresh : key ∉ fields.map Prod.fst) :
    HasItem (setItems entries fields) key value ↔ HasItem entries key value := by
  induction fields generalizing entries with
  | nil => exact Iff.rfl
  | cons first rest ih =>
      rw [List.map_cons, List.mem_cons, not_or] at fresh
      obtain ⟨different, others⟩ := fresh
      have assigned : setItems entries (first :: rest) =
        setItems (setItem entries first.1 first.2) rest := rfl
      rw [assigned, ih others, hasItem_setItem_of_ne (Ne.symm different)]

/-- Assignments change nothing when all the fields have these values already. -/
theorem setItems_eq_self_iff {fields : List (String × α)} (distinct : (fields.map Prod.fst).Nodup) :
    setItems entries fields = entries ↔ ∀ field ∈ fields, HasItem entries field.1 field.2 := by
  induction fields with
  | nil => simp [setItems]
  | cons first rest ih =>
      obtain ⟨fresh, others⟩ := List.nodup_cons.mp distinct
      have assigned : setItems entries (first :: rest) =
        setItems (setItem entries first.1 first.2) rest := rfl
      rw [assigned, List.forall_mem_cons, ← ih others]
      constructor
      · intro same
        have here : HasItem entries first.1 first.2 := by
          rw [← same, hasItem_setItems_of_fresh fresh]
          exact hasItem_setItem
        refine ⟨here, ?_⟩
        rwa [setItem_eq_self_iff.mpr here] at same
      · rintro ⟨here, later⟩
        rw [setItem_eq_self_iff.mpr here, later]

end Fields

theorem mutateField_eq_self_iff {hardware : List (String × Value)} {name : String}
    {old changed : Value} (found : hardware.lookup name = some old) :
    mutateField name changed hardware = hardware ↔ changed = old := by
  induction hardware with
  | nil => cases found
  | cons first rest ih =>
      obtain ⟨key, value⟩ := first
      rw [List.lookup_cons] at found
      rw [mutateField]
      by_cases here : name == key
      · rw [here] at found
        cases found
        simp [here]
      · rw [Bool.not_eq_true] at here
        rw [here] at found
        simp [here, ih found]

/-! ## All or nothing -/

/-- What a report has for each motor: the fields of its record, or the exception. -/
abbrev NewFields : Type := String → Except PyException (List (String × Value))

namespace NewFields

variable (newFields : NewFields)

/-- The record is a dictionary and the report has the fields of the motor. -/
def Admissible (motor : String × Value) : Prop :=
  (∃ fields, newFields motor.1 = .ok fields) ∧ ∃ entries, motor.2 = .dict entries

/-- The record holds these fields already. -/
def Held (motor : String × Value) : Prop :=
  ∀ fields entries, newFields motor.1 = .ok fields → motor.2 = .dict entries →
    ∀ field ∈ fields, HasItem entries field.1 field.2

/-- The motor before and after its fields were assigned. -/
def Installed (before after : String × Value) : Prop :=
  ∃ fields entries, newFields before.1 = .ok fields ∧ before.2 = .dict entries ∧
    after = (before.1, .dict (setItems entries fields))

/-- The record with the fields of the report. -/
def written (motorName : String) (record : Value) : Value :=
  match newFields motorName, record with
  | .ok fields, .dict entries => .dict (setItems entries fields)
  | _, _ => record

theorem written_eq {motorName : String} {fields entries : List (String × Value)}
    (ok : newFields motorName = .ok fields) :
    newFields.written motorName (.dict entries) = .dict (setItems entries fields) := by
  simp [written, ok]

/-- The fields have different names, so that none is assigned twice. -/
def Distinct : Prop :=
  ∀ motorName fields, newFields motorName = .ok fields → (fields.map Prod.fst).Nodup

variable {newFields}

theorem Distinct.written_eq_self_iff (distinct : newFields.Distinct) {motor : String × Value}
    (admissible : newFields.Admissible motor) :
    newFields.written motor.1 motor.2 = motor.2 ↔ newFields.Held motor := by
  obtain ⟨motorName, record⟩ := motor
  obtain ⟨⟨fields, ok⟩, entries, here⟩ := admissible
  dsimp only at ok here
  subst here
  rw [written_eq newFields ok, Value.dict.injEq,
    setItems_eq_self_iff (distinct motorName fields ok)]
  constructor
  · intro held otherFields otherEntries otherOk same
    cases ok.symm.trans otherOk
    cases same
    exact held
  · intro held
    exact held fields entries ok rfl

theorem installed_written {entries : List (String × Value)}
    (admissible : ∀ motor ∈ entries, newFields.Admissible motor) :
    List.Forall₂ newFields.Installed entries
      (entries.map fun motor => (motor.1, newFields.written motor.1 motor.2)) := by
  rw [List.forall₂_map_right_iff, List.forall₂_same]
  intro motor member
  obtain ⟨motorName, record⟩ := motor
  obtain ⟨⟨fields, ok⟩, dictionary, here⟩ := admissible _ member
  dsimp only at ok here
  subst here
  exact ⟨fields, dictionary, ok, rfl, by rw [written_eq newFields ok]⟩

end NewFields

/-- Either every motor record has its new fields and their number is returned, or the inventory is
what it was. -/
def UpdateAllOrNothing (newFields : NewFields) (perMotor : ℤ)
    (update : Program (List (String × Value)) PyException ℤ) (hardware : List (String × Value)) :
    Prop :=
  (∃ motorMap, List.Forall₂ newFields.Installed (motorMapOf hardware) motorMap ∧
    update hardware = (.done (perMotor * (motorMapOf hardware).length),
      mutateField "motor_map" (.dict motorMap) hardware)) ∨
  ∃ error, update hardware = (.thrown error, hardware)

section Law

variable {newFields : NewFields} {Kept : String × Value → Prop} {increment : ℤ}
  {body : String → Program Value PyException Unit} {hardware : List (String × Value)}
  {motorMap : List (String × Value)}

theorem lookup_of_part (mapped : part hardware "motor_map" = some motorMap) :
    hardware.lookup "motor_map" = some (.dict motorMap) := by
  rw [part, field] at mapped
  cases found : hardware.lookup "motor_map" with
  | none =>
      rw [found] at mapped
      cases mapped
  | some value =>
      rw [found] at mapped
      cases value with
      | dict entries => cases mapped; rfl
      | _ => cases mapped

/-- The table of the report and the motor records are dictionaries with the same names. -/
def CoversMotors (table : Option (List (String × Value))) (hardware : List (String × Value)) : Prop :=
  ∃ listed motorMap, table = some listed ∧ part hardware "motor_map" = some motorMap ∧
    sameNames (listed.map Prod.fst) (motorMap.map Prod.fst) = true

theorem throwIf_bind_apply {σ ε α : Type} {condition : Prop} [Decidable condition] {error : ε}
    {next : Unit → Program σ ε α} {state : σ} :
    (Program.throwIf condition error >>= next) state =
      if condition then (.thrown error, state) else next () state := by
  rw [Program.throwIf]
  split <;> rfl

theorem updateCovered_cases {table : Option (List (String × Value))} {notObjects : String}
    {mismatch : List (String × Value) → List (String × Value) → String}
    {body : List (String × Value) → String → Program Value PyException Unit} :
    (CoversMotors table hardware ∧ updateCovered table notObjects mismatch increment body hardware =
      updateMotors increment (body (table.getD [])) hardware) ∨
    (¬CoversMotors table hardware ∧ ∃ error,
      updateCovered table notObjects mismatch increment body hardware =
        (.thrown error, hardware)) := by
  rw [updateCovered, Program.bind_apply_done (Program.get_apply hardware)]
  cases table with
  | none =>
      right
      refine ⟨?_, _, rfl⟩
      rintro ⟨listed, motorMap, some, -⟩
      cases some
  | some table =>
      cases mapped : part hardware "motor_map" with
      | none =>
          right
          refine ⟨?_, _, rfl⟩
          rintro ⟨listed, motorMap, -, some, -⟩
          cases mapped.symm.trans some
      | some motorMap =>
          dsimp only
          rw [throwIf_bind_apply]
          by_cases different : sameNames (table.map Prod.fst) (motorMap.map Prod.fst) = false
          · right
            rw [if_pos different]
            refine ⟨?_, _, rfl⟩
            rintro ⟨otherTable, otherMap, listed, otherMapped, same⟩
            cases listed
            cases mapped.symm.trans otherMapped
            exact absurd (different.symm.trans same) Bool.false_ne_true
          · left
            rw [if_neg different, Option.getD_some]
            rw [Bool.not_eq_false] at different
            exact ⟨⟨table, motorMap, rfl, mapped, different⟩, rfl⟩

theorem updateMotors_apply : updateMotors increment body hardware =
    ((Program.updateEach increment body 0 (motorMapOf hardware)).1, mutateField "motor_map"
      (.dict (Program.updateEach increment body 0 (motorMapOf hardware)).2) hardware) := rfl

/-- The loop is all or nothing when no motor stops it, or when it stops unchanged. -/
theorem updateMotors_allOrNothing_iff (mapped : part hardware "motor_map" = some motorMap)
    (law : UpdateLaw body newFields.written newFields.Admissible newFields.Held Kept) :
    UpdateAllOrNothing newFields increment (updateMotors increment body) hardware ↔
      (∀ motor ∈ motorMapOf hardware, newFields.Admissible motor) ∨
        StopsUnchanged newFields.Admissible newFields.Held Kept (motorMapOf hardware) := by
  have motors : motorMapOf hardware = motorMap := by rw [motorMapOf, mapped, Option.getD_some]
  have found := lookup_of_part mapped
  rw [UpdateAllOrNothing, motors]
  by_cases admissible : ∀ motor ∈ motorMap, newFields.Admissible motor
  · have run : Program.updateEach increment body 0 motorMap = _ := law.updateEach_done admissible
    refine iff_of_true (.inl ⟨_, NewFields.installed_written admissible, ?_⟩) (.inl admissible)
    rw [updateMotors_apply, motors, run, zero_add]
  · obtain ⟨error, final, run, same⟩ : ∃ error final,
        Program.updateEach increment body 0 motorMap = (.thrown error, final) ∧ _ :=
      law.updateEach_thrown admissible
    have thrown : updateMotors increment body hardware =
        (.thrown error, mutateField "motor_map" (.dict final) hardware) := by
      rw [updateMotors_apply, motors, run]
    rw [thrown]
    simp only [admissible, false_or, Prod.mk.injEq, reduceCtorEq, false_and, and_false,
      exists_false, Outcome.thrown.injEq, exists_and_right, exists_eq', true_and]
    rw [mutateField_eq_self_iff found, Value.dict.injEq, same]

end Law

section Assign

variable {entries : List (String × Value)} {key : String} {value record : Value}

theorem assign_dict : assign key value (.dict entries) =
    (.done (), .dict (setItem entries key value)) := rfl

theorem assign_other (other : ∀ entries, record ≠ .dict entries) :
    assign key value record = (.thrown .typeError, record) := by
  cases record with
  | dict entries => exact absurd rfl (other entries)
  | _ => rfl

end Assign

/-! ## The limits -/

section Limits

variable (digest : List (String × Value) → String) (report : List (String × Value))

/-- `motor_limits` of a report. -/
def limitsOf : List (String × Value) := (part report "motor_limits").getD []

/-- The fields that a limit report has for a motor. -/
def newLimitFields : NewFields := fun motorName => do
  let (hard, soft) ← candidateLimits strings (limitsOf report) motorName
  let softMargin ← item report "soft_margin_rad_each_joint_boundary"
  return limitFields hard soft ++ [("limit_provenance", limitProvenance digest report softMargin)]

/-- The limits are written before a missing margin is noticed. -/
def LimitsKept (motor : String × Value) : Prop :=
  ∀ hard soft entries, candidateLimits strings (limitsOf report) motor.1 = .ok (hard, soft) →
    motor.2 = .dict entries → ∀ field ∈ limitFields hard soft, HasItem entries field.1 field.2

/-- The checks of `apply_limit_candidates` before its loop. -/
def LimitReportFits (hardware : List (String × Value)) : Prop :=
  (field report "mode").isText "offline_urdf_limit_derivation_no_hardware_io" = true ∧
    CoversMotors (part report "motor_limits") hardware

variable {strings digest report}

theorem newLimitFields_distinct : (newLimitFields strings digest report).Distinct := by
  intro motorName fields ok
  obtain ⟨⟨hard, soft⟩, -, ok⟩ := except_bind_eq_ok.mp ok
  obtain ⟨softMargin, -, ok⟩ := except_bind_eq_ok.mp ok
  cases ok
  simp [limitFields]

theorem nodup_limitFields {hard soft : List PyFloat} :
    ((limitFields hard soft).map Prod.fst).Nodup := by
  simp [limitFields]

theorem updateLimits_law : UpdateLaw (updateLimits strings digest report (limitsOf report))
    (newLimitFields strings digest report).written (newLimitFields strings digest report).Admissible
    (newLimitFields strings digest report).Held (LimitsKept strings report) := by
  constructor
  · rintro ⟨motorName, record⟩ ⟨⟨fields, ok⟩, entries, here⟩
    dsimp only at ok here
    subst here
    rw [NewFields.written_eq _ ok]
    obtain ⟨⟨hard, soft⟩, checked, ok⟩ := except_bind_eq_ok.mp ok
    obtain ⟨softMargin, margin, ok⟩ := except_bind_eq_ok.mp ok
    cases ok
    rw [updateLimits, checked, margin]
    rfl
  · exact fun motor admissible => newLimitFields_distinct.written_eq_self_iff admissible
  · rintro ⟨motorName, record⟩ stuck
    rw [updateLimits]
    cases checked : candidateLimits strings (limitsOf report) motorName with
    | error error =>
        refine ⟨error, record, rfl, iff_of_true rfl ?_⟩
        intro hard soft entries ok
        cases checked.symm.trans ok
    | ok limits =>
        obtain ⟨hard, soft⟩ := limits
        by_cases isDict : ∃ entries, record = .dict entries
        · obtain ⟨entries, rfl⟩ := isDict
          cases margin : item report "soft_margin_rad_each_joint_boundary" with
          | error error =>
              refine ⟨error, .dict (setItems entries (limitFields hard soft)), rfl, ?_⟩
              rw [Value.dict.injEq, setItems_eq_self_iff nodup_limitFields]
              constructor
              · intro held otherHard otherSoft otherEntries ok same
                cases checked.symm.trans ok
                cases same
                exact held
              · intro kept
                exact kept hard soft entries checked rfl
          | ok softMargin =>
              have ok : newLimitFields strings digest report motorName =
                  .ok (limitFields hard soft ++
                    [("limit_provenance", limitProvenance digest report softMargin)]) := by
                rw [newLimitFields, checked, margin]
                rfl
              exact absurd ⟨⟨_, ok⟩, entries, rfl⟩ stuck
        · have other : ∀ entries, record ≠ .dict entries :=
            fun entries same => isDict ⟨entries, same⟩
          refine ⟨.typeError, record, ?_, iff_of_true rfl ?_⟩
          · change (assign _ _ >>= _) record = _
            rw [Program.bind_apply, assign_other other]
          · intro hard soft entries _ same
            exact absurd same (other entries)

end Limits

/-! ## The ranges -/

section Ranges

variable (digest : List (String × Value) → String) (report : List (String × Value))
  (evidenceReport : String)

/-- `motors` of a report. -/
def rangesOf : List (String × Value) := (part report "motors").getD []

/-- The field that a readback has for a motor. -/
def newRangeFields : NewFields := fun motorName => do
  let ranges ← readbackRanges strings (rangesOf report) motorName
  return [("mit_ranges", mitRangesRecord digest report evidenceReport ranges)]

/-- The checks of `apply_mit_range_readback` before its loop. -/
def RangeReportFits (hardware : List (String × Value)) : Prop :=
  (field report "mode").isText "read_only_damiao_mit_range_register_audit" = true ∧
    (field report "passed").isTrue = true ∧
    (∀ key ∈ ["write_register_attempts", "enable_attempts", "mode_switch_attempts"],
      (field report key).isNumber 0 = true) ∧
    CoversMotors (part report "motors") hardware

variable {strings digest report evidenceReport}

theorem newRangeFields_distinct :
    (newRangeFields strings digest report evidenceReport).Distinct := by
  intro motorName fields ok
  obtain ⟨ranges, -, ok⟩ := except_bind_eq_ok.mp ok
  cases ok
  simp

theorem updateRanges_law :
    UpdateLaw (updateRanges strings digest report evidenceReport (rangesOf report))
      (newRangeFields strings digest report evidenceReport).written
      (newRangeFields strings digest report evidenceReport).Admissible
      (newRangeFields strings digest report evidenceReport).Held fun _ => True := by
  constructor
  · rintro ⟨motorName, record⟩ ⟨⟨fields, ok⟩, entries, here⟩
    dsimp only at ok here
    subst here
    rw [NewFields.written_eq _ ok]
    obtain ⟨ranges, checked, ok⟩ := except_bind_eq_ok.mp ok
    cases ok
    rw [updateRanges, checked]
    rfl
  · exact fun motor admissible => newRangeFields_distinct.written_eq_self_iff admissible
  · rintro ⟨motorName, record⟩ stuck
    rw [updateRanges]
    cases checked : readbackRanges strings (rangesOf report) motorName with
    | error error => exact ⟨error, record, rfl, iff_of_true rfl trivial⟩
    | ok ranges =>
        have ok : newRangeFields strings digest report evidenceReport motorName =
            .ok [("mit_ranges", mitRangesRecord digest report evidenceReport ranges)] := by
          rw [newRangeFields, checked]
          rfl
        have other : ∀ entries, record ≠ .dict entries := by
          rintro entries rfl
          exact stuck ⟨⟨_, ok⟩, entries, rfl⟩
        exact ⟨.typeError, record, assign_other other, iff_of_true rfl trivial⟩

end Ranges

/-! ## Both updates -/

section Both

variable {strings} {hardware : List (String × Value)}

/-- An update that goes through its loop when the report fits. -/
theorem allOrNothing_iff_of_cases {newFields : NewFields} {Kept : String × Value → Prop}
    {increment : ℤ} {update : Program (List (String × Value)) PyException ℤ}
    {body : String → Program Value PyException Unit} {Fits : Prop}
    (law : UpdateLaw body newFields.written newFields.Admissible newFields.Held Kept)
    (mapped : Fits → ∃ motorMap, part hardware "motor_map" = some motorMap)
    (cases : (Fits ∧ update hardware = updateMotors increment body hardware) ∨
      (¬Fits ∧ ∃ error, update hardware = (.thrown error, hardware))) :
    UpdateAllOrNothing newFields increment update hardware ↔
      ¬Fits ∨ (∀ motor ∈ motorMapOf hardware, newFields.Admissible motor) ∨
        StopsUnchanged newFields.Admissible newFields.Held Kept (motorMapOf hardware) := by
  rcases cases with ⟨fits, run⟩ | ⟨misfit, thrown⟩
  · obtain ⟨motorMap, here⟩ := mapped fits
    have loop : UpdateAllOrNothing newFields increment (updateMotors increment body) hardware ↔ _ :=
      updateMotors_allOrNothing_iff here law
    rw [← loop]
    simp only [fits, not_true_eq_false, false_or, UpdateAllOrNothing, run]
  · exact iff_of_true (.inr thrown) (.inl misfit)

variable {digest : List (String × Value) → String} {reprNames : List String → String}
  {report : List (String × Value)} {evidenceReport : String}

/-- A report that fits is applied motor by motor, and any other one changes nothing. -/
theorem applyLimitCandidates_cases :
    (LimitReportFits report hardware ∧
      applyLimitCandidates strings digest reprNames report hardware =
        updateMotors 2 (updateLimits strings digest report (limitsOf report)) hardware) ∨
    (¬LimitReportFits report hardware ∧
      ∃ error, applyLimitCandidates strings digest reprNames report hardware =
        (.thrown error, hardware)) := by
  rw [applyLimitCandidates, throwIf_bind_apply, LimitReportFits]
  by_cases mode :
      (field report "mode").isText "offline_urdf_limit_derivation_no_hardware_io" = false
  · right
    rw [if_pos mode]
    exact ⟨fun fits => absurd (mode.symm.trans fits.1) Bool.false_ne_true, _, rfl⟩
  · rw [if_neg mode]
    rw [Bool.not_eq_false] at mode
    simp only [mode, true_and]
    exact updateCovered_cases

theorem applyMitRangeReadback_cases :
    (RangeReportFits report hardware ∧
      applyMitRangeReadback strings digest report evidenceReport hardware =
        updateMotors 1 (updateRanges strings digest report evidenceReport (rangesOf report))
          hardware) ∨
    (¬RangeReportFits report hardware ∧
      ∃ error, applyMitRangeReadback strings digest report evidenceReport hardware =
        (.thrown error, hardware)) := by
  rw [applyMitRangeReadback, throwIf_bind_apply, RangeReportFits]
  by_cases mode :
      (field report "mode").isText "read_only_damiao_mit_range_register_audit" = false
  · right
    rw [if_pos mode]
    exact ⟨fun fits => absurd (mode.symm.trans fits.1) Bool.false_ne_true, _, rfl⟩
  rw [if_neg mode, throwIf_bind_apply]
  by_cases failed : (field report "passed").isTrue = false
  · right
    rw [if_pos failed]
    exact ⟨fun fits => absurd (failed.symm.trans fits.2.1) Bool.false_ne_true, _, rfl⟩
  rw [if_neg failed, throwIf_bind_apply]
  by_cases attempts : (["write_register_attempts", "enable_attempts", "mode_switch_attempts"].any
      fun key => !(field report key).isNumber 0) = true
  · right
    rw [if_pos attempts]
    refine ⟨?_, _, rfl⟩
    rintro ⟨-, -, none, -⟩
    obtain ⟨key, member, attempted⟩ := List.any_eq_true.mp attempts
    rw [none key member] at attempted
    cases attempted
  · have none : ∀ key ∈ ["write_register_attempts", "enable_attempts", "mode_switch_attempts"],
        (field report key).isNumber 0 = true := by
      intro key member
      by_contra nonzero
      apply attempts
      exact List.any_eq_true.mpr ⟨key, member, by simpa using nonzero⟩
    rw [if_neg attempts]
    rw [Bool.not_eq_false] at mode failed
    simp only [mode, failed, true_and]
    rw [and_iff_right none]
    exact updateCovered_cases

variable (strings digest reprNames report hardware evidenceReport)

/-- An update is all or nothing exactly when it is refused before its loop, when every motor is
admissible, or when the first motor that is not comes after records that hold the new values. -/
theorem contractUpdates_allOrNothing_iff :
    (UpdateAllOrNothing (newLimitFields strings digest report) 2
        (applyLimitCandidates strings digest reprNames report) hardware ↔
      ¬LimitReportFits report hardware ∨
        (∀ motor ∈ motorMapOf hardware, (newLimitFields strings digest report).Admissible motor) ∨
        StopsUnchanged (newLimitFields strings digest report).Admissible
          (newLimitFields strings digest report).Held (LimitsKept strings report)
          (motorMapOf hardware)) ∧
    (UpdateAllOrNothing (newRangeFields strings digest report evidenceReport) 1
        (applyMitRangeReadback strings digest report evidenceReport) hardware ↔
      ¬RangeReportFits report hardware ∨
        (∀ motor ∈ motorMapOf hardware,
          (newRangeFields strings digest report evidenceReport).Admissible motor) ∨
        StopsUnchanged (newRangeFields strings digest report evidenceReport).Admissible
          (newRangeFields strings digest report evidenceReport).Held (fun _ => True)
          (motorMapOf hardware)) := by
  constructor
  · apply allOrNothing_iff_of_cases updateLimits_law _ applyLimitCandidates_cases
    rintro ⟨-, limits, motorMap, -, mapped, -⟩
    exact ⟨motorMap, mapped⟩
  · apply allOrNothing_iff_of_cases updateRanges_law _ applyMitRangeReadback_cases
    rintro ⟨-, -, -, motors, motorMap, -, mapped, -⟩
    exact ⟨motorMap, mapped⟩

end Both

/-! ## A contract that is updated by half -/

/-- An inventory with two motors that has no limits and no ranges yet. -/
def emptyContract : List (String × Value) :=
  [("motor_map", .dict [("left_ankle_motor_1", .dict []), ("left_ankle_motor_2", .dict [])])]

def evenRange (bound : ℚ) : Value := .list [.float (.finite (-bound)), .float (.finite bound)]

/-- The soft limits of the second motor are outside its hard ones. -/
def halfLimitReport : List (String × Value) :=
  [("mode", .str "offline_urdf_limit_derivation_no_hardware_io"),
    ("soft_margin_rad_each_joint_boundary", .float (.finite (1 / 10))),
    ("motor_limits", .dict
      [("left_ankle_motor_1", .dict [("hard_limit_rad_candidate", evenRange 2),
        ("soft_limit_rad_candidate", evenRange 1)]),
      ("left_ankle_motor_2", .dict [("hard_limit_rad_candidate", evenRange 1),
        ("soft_limit_rad_candidate", evenRange 2)])])]

def driveRanges (pmax vmax tmax : ℚ) : Value :=
  .dict [("PMAX", .float (.finite pmax)), ("VMAX", .float (.finite vmax)),
    ("TMAX", .float (.finite tmax))]

/-- The second drive has reported that its torque range is empty. -/
def halfReadback : List (String × Value) :=
  [("mode", .str "read_only_damiao_mit_range_register_audit"),
    ("write_register_attempts", .int 0), ("enable_attempts", .int 0),
    ("mode_switch_attempts", .int 0), ("passed", .bool true),
    ("motors", .dict [("left_ankle_motor_1", driveRanges 12 20 28),
      ("left_ankle_motor_2", driveRanges 12 20 0)])]

section Half

variable (strings : PythonStrings) (digest : List (String × Value) → String)

theorem halfLimitReport_run (reprNames : List String → String) :
    applyLimitCandidates strings digest reprNames halfLimitReport emptyContract =
      (.thrown (.valueError "limits are not strictly nested for left_ankle_motor_2"),
        [("motor_map", .dict
          [("left_ankle_motor_1", .dict [("hard_limit_rad", evenRange 2),
            ("soft_limit_rad", evenRange 1),
            ("limit_provenance", limitProvenance digest halfLimitReport
              (.float (.finite (1 / 10))))]),
          ("left_ankle_motor_2", .dict [])])]) := by
  rfl

theorem halfReadback_run (evidenceReport : String) :
    applyMitRangeReadback strings digest halfReadback evidenceReport emptyContract =
      (.thrown (.valueError "invalid MIT range readback for left_ankle_motor_2"),
        [("motor_map", .dict
          [("left_ankle_motor_1", .dict [("mit_ranges", mitRangesRecord digest halfReadback
            evidenceReport (.finite 12, .finite 20, .finite 28))]),
          ("left_ankle_motor_2", .dict [])])]) := by
  rfl

end Half

/-- Both updates leave the first motor with its new values. -/
theorem contractUpdates_half : ¬∃ strings digest reprNames evidenceReport,
    UpdateAllOrNothing (newLimitFields strings digest halfLimitReport) 2
      (applyLimitCandidates strings digest reprNames halfLimitReport) emptyContract ∨
    UpdateAllOrNothing (newRangeFields strings digest halfReadback evidenceReport) 1
      (applyMitRangeReadback strings digest halfReadback evidenceReport) emptyContract := by
  rintro ⟨strings, digest, reprNames, evidenceReport, limits | ranges⟩
  · rw [UpdateAllOrNothing, halfLimitReport_run] at limits
    simp [emptyContract] at limits
  · rw [UpdateAllOrNothing, halfReadback_run] at ranges
    simp [emptyContract] at ranges

end SpriteRuntime
