import SpriteRuntime.Runtime.DriveCommands

/-!
# The two controllers

The native side and the Python side refresh the same motors with the same commands on every
tick, whatever targets are latched and whatever is measured.
-/

namespace SpriteRuntime

open Foundation Matrix

/-! ## The frame of the Python side -/

namespace SpriteMultiRateController

variable {controller : SpriteMultiRateController} {order : NativeMotorOrder}
  {kinematics : NativeKinematics}

/-- The readings of all motors, by name. -/
structure Reads (order : NativeMotorOrder) (measured : Dictionary MotorReading)
    (reading : Index → MotorReading) : Prop where
  keys : ∀ name ∈ measured.keys, ∃ motor, order.names motor = name
  read : ∀ motor, measured.get? (order.names motor) = some (reading motor)

/-- The torques of the two motors of an ankle. -/
def ankleTorque (controller : SpriteMultiRateController) (vectors : ImpedanceVectors Index)
    (pair : PairName) : Fin 2 → ℚ :=
  (controller.mapping.differentials pair).jointToDrive .torque
    (limitedTorque
      (fun side => controller.jointEffortLimitNm (controller.mapping.pairJoints pair side))
      (vectors.select (controller.mapping.pairJoints pair)))

/-- What a frame has for each motor. -/
structure CommandsOf (controller : SpriteMultiRateController) (order : NativeMotorOrder)
    (vectors : ImpedanceVectors Index) (reading : Index → MotorReading)
    (frame : MultiRateCommandFrame) : Prop where
  stateTick : frame.stateTick = controller.stateTick
  ankle : ∀ pair ∈ anklePairNames, ∀ side motor,
    controller.mapping.motorName (.paired pair side) = order.names motor →
      frame.command? (order.names motor) =
        some (torqueCommand (reading motor) (controller.ankleTorque vectors pair side))
  other : ∀ drive ∈ controller.mapping.drives,
    controller.mapping.motorName drive ∉ controller.ankleMotorNames →
      frame.command? (controller.mapping.motorName drive) =
        if controller.stateTick % 10 = 0 then some (controller.mapping.command vectors drive)
        else none
  absent : ∀ name, (∀ motor, order.names motor ≠ name) → frame.command? name = none

theorem mem_ankleMotorNames {name : String} : name ∈ controller.ankleMotorNames ↔
    ∃ pair ∈ anklePairNames, ∃ side,
      (controller.mapping.differentials pair).motorNames side = name := by
  simp only [ankleMotorNames, List.mem_flatMap, List.mem_ofFn]

variable {measured : Dictionary MotorReading} {reading : Index → MotorReading}
  (matricesOf : controller.mapping.MatricesOf order kinematics.matrices)
  (reads : Reads order measured reading)

include matricesOf reads

theorem Reads.covers : SpriteMotorMap.Covers controller.mapping.physicalMotorNames measured := by
  constructor
  · intro name member
    exact (matricesOf.inOrder name).mpr (reads.keys name member)
  · intro name member
    obtain ⟨motor, rfl⟩ := (matricesOf.inOrder name).mp member
    by_contra absent
    have here := reads.read motor
    rw [Dictionary.get?_eq_none absent] at here
    cases here

/-- Both sides measure the same joints. -/
theorem measuredJointState_eq {motors : Index → MotorState}
    (same : ∀ motor, (motors motor).reading = reading motor) :
    controller.measuredJointState measured =
      .ok (measuredJointPosition kinematics motors, measuredJointVelocity kinematics motors) := by
  have covers := reads.covers matricesOf
  have coversValues (change : MotorReading → ℚ) :
      SpriteMotorMap.Covers controller.mapping.physicalMotorNames
        (measured.mapValues change) := by
    rw [SpriteMotorMap.Covers, Dictionary.keys_mapValues]
    exact covers
  have read (change : MotorReading → ℚ) (motor : Index) :
      (measured.mapValues change).get? (order.names motor) =
        some (change (motors motor).reading) := by
    rw [Dictionary.get?_mapValues, reads.read, same]
    rfl
  have position := (matricesOf.motorToJoint_eq (coversValues (·.position))
    (read (·.position))).1
  have velocity := (matricesOf.motorToJoint_eq (coversValues (·.velocity))
    (read (·.velocity))).2
  exact except_bind_eq_ok.mpr ⟨(), raiseIf_eq_ok.mpr (not_not.mpr covers),
    except_bind_eq_ok.mpr ⟨_, position, except_bind_eq_ok.mpr ⟨_, velocity, rfl⟩⟩⟩

/-- The assignments for an ankle. -/
theorem anklePair_eq (vectors : ImpedanceVectors Index) (pair : PairName) :
    ∃ result, controller.anklePair measured vectors pair = .ok result ∧
      result.commands.keys = List.ofFn (controller.mapping.differentials pair).motorNames ∧
      ∀ side motor, controller.mapping.motorName (.paired pair side) = order.names motor →
        (order.names motor, torqueCommand (reading motor)
          (controller.ankleTorque vectors pair side)) ∈ result.commands := by
  have index (side : Fin 2) : ∃ motor, order.names motor =
      (controller.mapping.differentials pair).motorNames side :=
    (matricesOf.inOrder _).mp (SpriteMotorMap.mem_physicalMotorNames.mpr
      ⟨_, SpriteMotorMap.mem_drives_paired pair side, rfl⟩)
  choose motorOf named using index
  have indices := matricesOf.complete.joints.pairIndices_eq pair
  have commands : (collect fun side => do
      let reading ← measured.item ((controller.mapping.differentials pair).motorNames side)
      return ((controller.mapping.differentials pair).motorNames side,
        torqueCommand reading (controller.ankleTorque vectors pair side))) =
      .ok fun side => ((controller.mapping.differentials pair).motorNames side,
        torqueCommand (reading (motorOf side)) (controller.ankleTorque vectors pair side)) := by
    rw [collect_eq_ok]
    intro side
    have here := reads.read (motorOf side)
    rw [named] at here
    rw [Dictionary.item_eq_ok_iff.mpr here]
    rfl
  refine ⟨_, except_bind_eq_ok.mpr ⟨_, indices, except_bind_eq_ok.mpr ⟨_, commands, rfl⟩⟩, ?_, ?_⟩
  · rw [Dictionary.keys, List.map_ofFn]
    rfl
  · intro side motor same
    have own : motor = motorOf side := order.distinct (same.symm.trans (named side).symm)
    rw [List.mem_ofFn]
    refine ⟨side, ?_⟩
    rw [own, ← named]

omit reads in
/-- The ankle commands of all loops. -/
theorem get?_ankleCommands {vectors : ImpedanceVectors Index}
    {result : PairName → AnklePairCommands}
    (keys : ∀ pair, (result pair).commands.keys =
      List.ofFn (controller.mapping.differentials pair).motorNames)
    (entries : ∀ pair side motor,
      controller.mapping.motorName (.paired pair side) = order.names motor →
        (order.names motor, torqueCommand (reading motor)
          (controller.ankleTorque vectors pair side)) ∈ (result pair).commands) :
    (∀ pair ∈ anklePairNames, ∀ side motor,
      controller.mapping.motorName (.paired pair side) = order.names motor →
        Dictionary.get? (anklePairNames.flatMap fun pair => (result pair).commands)
          (order.names motor) = some (torqueCommand (reading motor)
            (controller.ankleTorque vectors pair side))) ∧
      ∀ name ∉ controller.ankleMotorNames,
        Dictionary.get? (anklePairNames.flatMap fun pair => (result pair).commands) name =
          none := by
  have allKeys : Dictionary.keys (anklePairNames.flatMap fun pair => (result pair).commands) =
      controller.ankleMotorNames := by
    rw [Dictionary.keys, List.map_flatMap, ankleMotorNames]
    exact congrArg (List.flatMap · anklePairNames) (funext keys)
  have distinct : controller.ankleMotorNames.Nodup := by
    have some : anklePairNames.Sublist PairName.all := by decide
    have within : controller.ankleMotorNames.Sublist controller.mapping.physicalMotorNames :=
      (some.flatMap _).trans (List.sublist_append_right _ _)
    exact List.Nodup.sublist within matricesOf.complete.motors
  constructor
  · intro pair member side motor same
    apply Dictionary.get?_eq_some
    · rw [allKeys]
      exact distinct
    · rw [List.mem_flatMap]
      exact ⟨pair, member, entries pair side motor same⟩
  · intro name absent
    apply Dictionary.get?_eq_none
    rw [allKeys]
    exact absent

omit reads in
/-- The commands of the other motors, on a tick that refreshes them. -/
theorem get?_otherCommands {vectors : ImpedanceVectors Index} (gains : ¬vectors.NegativeGain) :
    ∃ commands, controller.otherCommands vectors = .ok commands ∧
      (∀ drive ∈ controller.mapping.drives,
        commands.get? (controller.mapping.motorName drive) =
          if controller.mapping.motorName drive ∉ controller.ankleMotorNames ∧
              controller.stateTick % 10 = 0 then
            some (controller.mapping.command vectors drive)
          else none) ∧
      ∀ name ∉ controller.mapping.physicalMotorNames, commands.get? name = none := by
  have all := matricesOf.complete.jointImpedanceToMotorCommands_eq gains
  unfold otherCommands
  by_cases refreshed : controller.stateTick % 10 = 0
  · rw [if_pos refreshed]
    refine ⟨_, except_bind_eq_ok.mpr ⟨_, all, rfl⟩, ?_, ?_⟩
    · intro drive member
      rw [Dictionary.get?_filter (· ∉ controller.ankleMotorNames),
        matricesOf.complete.get?_motorEntries member]
      simp only [refreshed, and_true]
    · intro name absent
      rw [Dictionary.get?_filter (· ∉ controller.ankleMotorNames), Dictionary.get?_eq_none,
        ite_self]
      rw [SpriteMotorMap.keys_motorEntries]
      exact absent
  · rw [if_neg refreshed]
    refine ⟨_, rfl, ?_, ?_⟩
    · intro drive member
      rw [if_neg fun both => refreshed both.2]
      rfl
    · intro name absent
      rfl

/-- The frame of a tick. -/
theorem frame_spec {motors : Index → MotorState}
    (same : ∀ motor, (motors motor).reading = reading motor) {target : ImpedanceTarget ℚ}
    (gains : target.GainsNonneg) :
    ∃ frame, controller.frame target measured = .ok frame ∧
      controller.CommandsOf order (impedance target (measuredJointPosition kinematics motors)
        (measuredJointVelocity kinematics motors)) reading frame := by
  let vectors := impedance target (measuredJointPosition kinematics motors)
    (measuredJointVelocity kinematics motors)
  have measuredOk := measuredJointState_eq matricesOf reads same
  have ankles := anklePair_eq matricesOf reads vectors
  choose result found keys entries using ankles
  have allFound : anklePairNames.mapM (controller.anklePair measured vectors) =
      .ok (anklePairNames.map result) := mapM_eq_ok fun pair _ => found pair
  have nonneg : ¬vectors.NegativeGain := by
    rintro (⟨joint, negative⟩ | ⟨joint, negative⟩)
    · exact absurd negative (not_lt.mpr (gains joint).1)
    · exact absurd negative (not_lt.mpr (gains joint).2)
  obtain ⟨other, otherFound, others, absentOther⟩ := get?_otherCommands matricesOf nonneg
  obtain ⟨inAnkles, notInAnkles⟩ := get?_ankleCommands matricesOf keys entries
  refine ⟨_, except_bind_eq_ok.mpr ⟨_, measuredOk, except_bind_eq_ok.mpr ⟨_, allFound,
    except_bind_eq_ok.mpr ⟨_, otherFound, rfl⟩⟩⟩, ?_⟩
  constructor
  · rfl
  · intro pair member side motor named
    rw [MultiRateCommandFrame.command?]
    simp only [List.flatMap_map]
    rw [inAnkles pair member side motor named, Option.some_or]
  · intro drive member notAnkle
    rw [MultiRateCommandFrame.command?]
    simp only [List.flatMap_map]
    rw [notInAnkles _ notAnkle, Option.none_or, others drive member]
    simp only [notAnkle, not_false_eq_true, true_and]
    rfl
  · intro name unknown
    have absent : name ∉ controller.mapping.physicalMotorNames := by
      intro member
      obtain ⟨motor, here⟩ := (matricesOf.inOrder name).mp member
      exact unknown motor here
    have notAnkle : name ∉ controller.ankleMotorNames := by
      intro member
      obtain ⟨pair, _, side, here⟩ := mem_ankleMotorNames.mp member
      exact absent (SpriteMotorMap.mem_physicalMotorNames.mpr
        ⟨_, SpriteMotorMap.mem_drives_paired pair side, here⟩)
    rw [MultiRateCommandFrame.command?]
    simp only [List.flatMap_map]
    rw [notInAnkles _ notAnkle, Option.none_or, absentOther _ absent]

end SpriteMultiRateController

/-! ## Ticks of both sides -/

/-- A target that both sides accept. -/
structure LatchedTarget where
  packet : TargetPacket
  finite : ∀ joint, packet.AllFinite joint
  gains : packet.impedanceTarget.GainsNonneg

/-- What comes before a tick: perhaps a new target, and a measurement of every motor. -/
structure ControlTick (order : NativeMotorOrder) where
  latched : Option LatchedTarget
  reading : Index → MotorReading
  measured : Dictionary MotorReading
  reads : SpriteMultiRateController.Reads order measured reading

namespace ControlTick

variable {order : NativeMotorOrder} (tick : ControlTick order)

/-- The native side as the tick finds it. -/
def arrive (state : ControlState) : ControlState :=
  { motors := fun motor =>
      { state.motors motor with
        lastPosition := (tick.reading motor).position
        lastVelocity := (tick.reading motor).velocity }
    ipc :=
      match tick.latched with
      | some target => { state.ipc with latestTarget := target.packet, hasTarget := true }
      | none => state.ipc }

/-- The Python side as the tick finds it. -/
def latch (controller : SpriteMultiRateController) : SpriteMultiRateController :=
  match tick.latched with
  | some target => controller.latchPolicyTarget ⟨target.packet.impedanceTarget, target.gains⟩
  | none => controller

def stepController : Program SpriteMultiRateController String MultiRateCommandFrame := do
  Program.modify tick.latch
  SpriteMultiRateController.step tick.measured

end ControlTick

/-- Both controllers of one robot, with the matrices exported for its map. -/
structure ControllerSetup where
  map : SpriteMotorMap ℚ
  order : NativeMotorOrder
  effort : Index → ℚ
  positive : ∀ joint, 0 < effort joint
  kinematics : NativeKinematics
  descriptors : Index → MotorDescriptor
  exported : map.exportKinematics order effort = .ok kinematics
  named : ∀ motor, (descriptors motor).name = order.names motor
  ankleMotors : ∀ motor, (descriptors motor).isAnkleMotor = true ↔
    ∃ pair ∈ anklePairNames, ∃ side, map.motorName (.paired pair side) = order.names motor
  ankleJoints : ∀ joint, kinematics.isAnkleJoint joint = true ↔
    ∃ pair ∈ anklePairNames, ∃ side, map.jointName (.paired pair side) = map.policyJointNames joint

namespace ControllerSetup

variable (setup : ControllerSetup)

/-- The Python controller while it holds a target. -/
def controller (target : {target : ImpedanceTarget ℚ // target.GainsNonneg}) (stateTick : ℕ) :
    SpriteMultiRateController :=
  { mapping := setup.map
    jointEffortLimitNm := setup.effort
    positive := setup.positive
    target := some target
    stateTick }

/-- The native side on a tick. -/
def nativeTick (saturate : Bool) (tick : ControlTick setup.order) :
    Program ControlState String Unit := do
  Program.modify tick.arrive
  previewFinalMotorCommands setup.descriptors setup.kinematics saturate

/-- Both sides hold the same target and have counted the same ticks. -/
def Alike (native : ControlState) (python : SpriteMultiRateController) : Prop :=
  native.ipc.hasTarget = true ∧ ∃ gains : native.ipc.latestTarget.impedanceTarget.GainsNonneg,
    python = setup.controller ⟨native.ipc.latestTarget.impedanceTarget, gains⟩
      native.ipc.motorPreviewCount

/-- The frame has what the native side computes for each motor, and nothing else. -/
structure SameCommands (state : ControlState) (frame : MultiRateCommandFrame) : Prop where
  stateTick : frame.stateTick = state.ipc.motorPreviewCount
  command : ∀ motor, frame.command? (setup.order.names motor) =
    freshCommand (setup.descriptors motor) setup.kinematics state motor
  absent : ∀ name, (∀ motor, setup.order.names motor ≠ name) → frame.command? name = none

variable {setup} {native : ControlState} {python : SpriteMultiRateController}

theorem matricesOf : setup.map.MatricesOf setup.order setup.kinematics.matrices :=
  (exportKinematics_spec setup.exported).1

theorem Alike.arrive (alike : setup.Alike native python) (tick : ControlTick setup.order) :
    setup.Alike (tick.arrive native) (tick.latch python) := by
  obtain ⟨hasTarget, gains, rfl⟩ := alike
  unfold ControlTick.arrive ControlTick.latch
  cases tick.latched with
  | none => exact ⟨hasTarget, gains, rfl⟩
  | some target => exact ⟨rfl, target.gains, rfl⟩

/-- The command of an ankle motor is the same torque on both sides. -/
theorem ankleCommand_agrees {pair : PairName} (member : pair ∈ anklePairNames) {side : Fin 2}
    {motor : Index} (same : setup.map.motorName (.paired pair side) = setup.order.names motor)
    (target : {target : ImpedanceTarget ℚ // target.GainsNonneg}) (stateTick : ℕ)
    (packet : TargetPacket) (motors : Index → MotorState) :
    ankleCommand setup.kinematics packet motors motor =
      SpriteMultiRateController.torqueCommand (motors motor).reading
        ((setup.controller target stateTick).ankleTorque
          (SpriteMultiRateController.impedance packet.impedanceTarget
            (measuredJointPosition setup.kinematics motors)
            (measuredJointVelocity setup.kinematics motors)) pair side) := by
  obtain ⟨matricesOf, effort, names⟩ := exportKinematics_spec setup.exported
  have positive (joint : Index) : 0 < setup.kinematics.jointEffortLimit joint := by
    rw [effort]
    exact setup.positive joint
  have ankles (other : Fin 2) :
      setup.kinematics.isAnkleJoint (setup.map.pairJoints pair other) = true := by
    rw [setup.ankleJoints]
    exact ⟨pair, member, other, (matricesOf.complete.joints.policyJointNames_joint
      (SpriteMotorMap.mem_drives_paired pair other)).symm⟩
  rw [ankleCommand_eq matricesOf same positive ankles, effort]
  rfl

/-- A step of the Python side makes the commands that the native side computes. -/
theorem exists_step (alike : setup.Alike native python) {tick : ControlTick setup.order}
    (read : ∀ motor, (native.motors motor).reading = tick.reading motor) :
    ∃ frame, SpriteMultiRateController.step tick.measured python =
        (.done frame, { python with stateTick := python.stateTick + 1 }) ∧
      setup.SameCommands native frame := by
  obtain ⟨_, gains, rfl⟩ := alike
  let target : {target : ImpedanceTarget ℚ // target.GainsNonneg} :=
    ⟨native.ipc.latestTarget.impedanceTarget, gains⟩
  let controller := setup.controller target native.ipc.motorPreviewCount
  have matrices : controller.mapping.MatricesOf setup.order setup.kinematics.matrices :=
    setup.matricesOf
  obtain ⟨frame, made, commands⟩ :=
    SpriteMultiRateController.frame_spec matrices tick.reads read gains
  refine ⟨frame, ?_, commands.stateTick, ?_, commands.absent⟩
  · refine (Program.bind_apply_done (Program.get_apply _) _).trans ?_
    exact (Program.bind_apply_done (Program.ofExcept_eq_done_iff.mpr ⟨made, rfl⟩) _).trans rfl
  · intro motor
    have ankleMotor := setup.ankleMotors motor
    by_cases ankle : (setup.descriptors motor).isAnkleMotor = true
    · obtain ⟨pair, member, side, same⟩ := ankleMotor.mp ankle
      rw [commands.ankle pair member side motor same, freshCommand, if_pos ankle,
        ankleCommand_agrees member same target native.ipc.motorPreviewCount, read]
    · obtain ⟨drive, member, same⟩ := matrices.inOrder.exists_drive motor
      have notAnkle : controller.mapping.motorName drive ∉ controller.ankleMotorNames := by
        intro inAnkles
        obtain ⟨pair, inPairs, side, here⟩ :=
          SpriteMultiRateController.mem_ankleMotorNames.mp inAnkles
        exact ankle (ankleMotor.mpr ⟨pair, inPairs, side, here.trans same⟩)
      rw [← same, commands.other drive member notAnkle, freshCommand, if_neg ankle,
        coupledCommand_eq matrices member same]
      rfl

theorem previewFinalMotorCommands_alike {saturate : Bool} {after : ControlState}
    (alike : setup.Alike native python)
    (returned : previewFinalMotorCommands setup.descriptors setup.kinematics saturate native =
      (.done (), after)) :
    setup.Alike after { python with stateTick := python.stateTick + 1 } := by
  obtain ⟨hasTarget, gains, rfl⟩ := alike
  obtain ⟨counted, _⟩ := previewFinalMotorCommands_spec hasTarget returned
  rw [Alike, counted]
  exact ⟨hasTarget, gains, rfl⟩

/-- A tick after which both sides go on alike. -/
theorem exists_tick (alike : setup.Alike native python) (tick : ControlTick setup.order) :
    ∃ frame final, tick.stepController python = (.done frame, final) ∧
      setup.SameCommands (tick.arrive native) frame ∧
      ∀ saturate after, setup.nativeTick saturate tick native = (.done (), after) →
        setup.Alike after final := by
  have arrived := alike.arrive tick
  obtain ⟨frame, stepped, same⟩ := exists_step arrived fun _ => rfl
  refine ⟨frame, _, (Program.bind_apply_done (Program.modify_apply _ _) _).trans stepped, same, ?_⟩
  intro saturate after returned
  obtain ⟨_, _, moved, previewed⟩ := Program.bind_eq_done returned
  cases moved
  exact previewFinalMotorCommands_alike arrived previewed

/-- Runs of both sides over the same ticks stay alike. -/
theorem exists_run (alike : setup.Alike native python) {saturate : Bool}
    {ticks : List (ControlTick setup.order)} {reached : ControlState}
    (returned : Program.forEach ticks (setup.nativeTick saturate) native = (.done (), reached)) :
    ∃ current, Program.forEach ticks (fun tick => do
        let _ ← tick.stepController
        return ()) python = (.done (), current) ∧ setup.Alike reached current := by
  induction ticks generalizing native python with
  | nil =>
      cases returned
      exact ⟨python, rfl, alike⟩
  | cons tick rest induction =>
      obtain ⟨_, middle, first, others⟩ := Program.bind_eq_done returned
      obtain ⟨frame, next, stepped, _, goesOn⟩ := exists_tick alike tick
      obtain ⟨current, ran, still⟩ := induction (goesOn saturate middle first) others
      exact ⟨current, (Program.bind_apply_done ((Program.bind_apply_done stepped _).trans rfl)
        _).trans ran, still⟩

/-- **Native and Python commands agree.**  After any ticks that the native side has come through,
the next tick finds both sides with the same new commands for the same motors; what the native
side then stores, where it does not saturate, is that command or the one held before. -/
theorem nativeTick_agrees (alike : setup.Alike native python) {saturate : Bool}
    {ticks : List (ControlTick setup.order)} {reached : ControlState}
    (returned : Program.forEach ticks (setup.nativeTick saturate) native = (.done (), reached))
    (next : ControlTick setup.order) :
    ∃ current frame final, Program.forEach ticks (fun tick => do
        let _ ← tick.stepController
        return ()) python = (.done (), current) ∧
      next.stepController current = (.done frame, final) ∧
      frame.stateTick = reached.ipc.motorPreviewCount ∧
      (∀ motor, frame.command? (setup.order.names motor) = freshCommand
        (setup.descriptors motor) setup.kinematics (next.arrive reached) motor) ∧
      (∀ name, (∀ motor, setup.order.names motor ≠ name) → frame.command? name = none) ∧
      ∀ after, setup.nativeTick saturate next reached = (.done (), after) → ∀ motor,
        saturate = false ∨ (after.motors motor).policyTorqueSaturationCount =
            (reached.motors motor).policyTorqueSaturationCount →
          (after.motors motor).preview = (frame.command? (setup.order.names motor)).getD
            (reached.motors motor).preview := by
  obtain ⟨current, ran, still⟩ := exists_run alike returned
  obtain ⟨frame, final, stepped, same, _⟩ := exists_tick still next
  have count : (next.arrive reached).ipc.motorPreviewCount = reached.ipc.motorPreviewCount := by
    unfold ControlTick.arrive
    cases next.latched with
    | none => rfl
    | some target => rfl
  refine ⟨current, frame, final, ran, stepped, same.stateTick.trans count, same.command,
    same.absent, ?_⟩
  intro after called motor unsaturated
  obtain ⟨_, _, moved, previewed⟩ := Program.bind_eq_done called
  cases moved
  have hasTarget := (still.arrive next).1
  have counts : (after.motors motor).policyTorqueSaturationCount =
      ((next.arrive reached).motors motor).policyTorqueSaturationCount := by
    rcases unsaturated with rfl | kept
    · exact previewFinalMotorCommands_saturationCount hasTarget previewed motor
    · exact kept
  rw [same.command, previewFinalMotorCommands_preview hasTarget previewed counts]
  rfl

end ControllerSetup

/-! ## A robot without coupling -/

/-- A tick with the readings in the native order. -/
def ControlTick.measure (order : NativeMotorOrder) (latched : Option LatchedTarget)
    (reading : Index → MotorReading) : ControlTick order where
  latched
  reading
  measured := List.ofFn fun motor => (order.names motor, reading motor)
  reads :=
    { keys := by
        intro name member
        obtain ⟨value, inList⟩ := Dictionary.mem_keys.mp member
        obtain ⟨motor, same⟩ := List.mem_ofFn.mp inList
        exact ⟨motor, congrArg Prod.fst same⟩
      read := by
        intro motor
        apply Dictionary.get?_eq_some
        · rw [Dictionary.keys, List.map_ofFn]
          exact List.nodup_ofFn.mpr order.distinct
        · exact List.mem_ofFn.mpr ⟨motor, rfl⟩ }

section Uncoupled

variable {kinematics : NativeKinematics}
  (exported : (uncoupledMotorMap ℚ).exportKinematics uncoupledOrder (fun _ => 1) = .ok kinematics)

def uncoupledSetup : ControllerSetup where
  map := uncoupledMotorMap ℚ
  order := uncoupledOrder
  effort := fun _ => 1
  positive := fun _ => one_pos
  kinematics
  descriptors motor := { MotorDescriptor.testMotor with name := uncoupledOrder.names motor }
  exported
  named := fun _ => rfl
  ankleMotors := by decide +kernel
  ankleJoints := by
    have names : ∀ joint, decide ("ankle_".toList <:+: (policyJoint joint).toList) = true ↔
        ∃ pair ∈ anklePairNames, ∃ side, PairName.joints pair side = policyJoint joint := by
      decide +kernel
    intro joint
    rw [NativeKinematics.isAnkleJoint, (exportKinematics_spec exported).2.2]
    exact names joint

/-- No motor has moved, and the target is all zeros. -/
def restingState : ControlState :=
  { motors := fun _ => {}
    ipc := { hasTarget := true } }

theorem toMotor_uncoupled {drive : Drive ℚ} (member : drive ∈ (uncoupledMotorMap ℚ).drives) :
    (uncoupledMotorMap ℚ).toMotor .position 0 drive = 0 := by
  cases drive with
  | direct entry =>
      obtain ⟨name, _, rfl⟩ := List.mem_map.mp (SpriteMotorMap.mem_drives_direct.mp member)
      simp [SpriteMotorMap.toMotor, DirectMotorMap.jointToDrive]
  | paired pair side =>
      simp [SpriteMotorMap.toMotor, DifferentialPairDriveMap.jointToDrive,
        DifferentialPair.jointToMotor, uncoupledMotorMap]

/-- At rest every motor is asked to stay. -/
theorem freshCommand_resting (motor : Index) :
    freshCommand ((uncoupledSetup exported).descriptors motor) kinematics restingState motor =
      some {} := by
  obtain ⟨matricesOf, effort, _⟩ := exportKinematics_spec exported
  have phase : restingState.ipc.motorPreviewCount % 10 = 0 := rfl
  unfold freshCommand
  by_cases ankle : ((uncoupledSetup exported).descriptors motor).isAnkleMotor = true
  · rw [if_pos ankle, ankleCommand_rest]
    · rfl
    · intro joint
      rw [effort]
      exact zero_le_one
    · exact fun joint => ⟨rfl, rfl, rfl⟩
  · obtain ⟨drive, member, same⟩ := matricesOf.inOrder.exists_drive motor
    have position := desiredMotorPosition_eq matricesOf member same restingState.ipc.latestTarget
    have zero : desiredMotorPosition kinematics restingState.ipc.latestTarget motor = 0 :=
      position.trans (toMotor_uncoupled member)
    rw [if_neg ankle, if_pos phase, coupledCommand, zero]
    simp [coupledGain, desiredMotorVelocity, restingState, TargetPacket.zero, Double.value]

def restingTick : ControlTick uncoupledOrder :=
  .measure uncoupledOrder none fun _ => { position := 0, velocity := 0 }

/-- One radian for every joint, with a stiffness. -/
def stiffTarget : LatchedTarget where
  packet :=
    { TargetPacket.zero with
      positionRad := fun _ => .finite 1
      kp := fun _ => .finite 2 }
  finite := by decide +kernel
  gains := by
    intro joint
    constructor
    · exact zero_le_two
    · exact le_refl 0

theorem exists_restingTick : ∃ reached,
    (uncoupledSetup exported).nativeTick false restingTick restingState = (.done (), reached) ∧
      reached.ipc.motorPreviewCount = 1 := by
  have returns (motor : Index) : (previewMotor ((uncoupledSetup exported).descriptors motor) false
      (freshCommand ((uncoupledSetup exported).descriptors motor) kinematics restingState motor)
      {}).1.isDone = true := by
    have passes : ∀ motor, (previewMotor
        { MotorDescriptor.testMotor with name := uncoupledOrder.names motor } false (some {})
        {}).1.isDone = true := by decide +kernel
    rw [freshCommand_resting exported]
    exact passes motor
  obtain ⟨reached, returned⟩ := previewFinalMotorCommands_isDone returns
  obtain ⟨counted, _⟩ := previewFinalMotorCommands_spec rfl returned
  refine ⟨reached, (Program.bind_apply_done (Program.modify_apply _ _) _).trans returned, ?_⟩
  rw [counted]
  rfl

theorem nativeTick_agrees_uncoupled : ∃ kinematics, ∃ exported :
      (uncoupledMotorMap ℚ).exportKinematics uncoupledOrder (fun _ => 1) = .ok kinematics,
    ∃ reached current frame final,
      let next := ControlTick.measure uncoupledOrder (some stiffTarget)
        fun _ => { position := 1 / 2, velocity := 0 }
      (uncoupledSetup exported).nativeTick false restingTick restingState = (.done (), reached) ∧
      next.stepController current = (.done frame, final) ∧ frame.stateTick = 1 ∧
      ∀ motor, frame.command? (uncoupledOrder.names motor) =
        freshCommand ((uncoupledSetup exported).descriptors motor) kinematics
          (next.arrive reached) motor := by
  obtain ⟨kinematics, exported⟩ := exists_uncoupledKinematics fun _ => 1
  obtain ⟨reached, returned, counted⟩ := exists_restingTick exported
  have gains : TargetPacket.zero.impedanceTarget.GainsNonneg :=
    fun joint => ⟨le_refl 0, le_refl 0⟩
  have alike : (uncoupledSetup exported).Alike restingState
      ((uncoupledSetup exported).controller ⟨_, gains⟩ 0) := ⟨rfl, gains, rfl⟩
  have ran : Program.forEach [restingTick] ((uncoupledSetup exported).nativeTick false)
      restingState = (.done (), reached) := (Program.bind_apply_done returned _).trans rfl
  obtain ⟨current, frame, final, _, stepped, stateTick, commands, _⟩ :=
    ControllerSetup.nativeTick_agrees alike ran (.measure uncoupledOrder (some stiffTarget)
      fun _ => { position := 1 / 2, velocity := 0 })
  exact ⟨kinematics, exported, reached, current, frame, final, returned, stepped,
    stateTick.trans counted, commands⟩

end Uncoupled

end SpriteRuntime
