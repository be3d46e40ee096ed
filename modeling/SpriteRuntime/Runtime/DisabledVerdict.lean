import SpriteRuntime.Runtime.GateContainment
import SpriteRuntime.Runtime.GateDrives

/-!
# No false disabled verdict

A run that passes has the word of every motor that it is disabled.  On buses that keep the order
of what they carry but may delay and lose anything, that word is only as good as what was heard
before it: both implementations hear of every motor that it is enabled before they begin to
disable, and enable nothing after that.
-/

namespace SpriteRuntime

open Foundation

/-- A native run that passes leaves every drive disabled, with nothing under way that enables
it. -/
def NativeVerdictSound (setup : Setup) (world : World) : Prop :=
  ∀ report final, runNativeProtectedPolicy setup world Machine.initial = (.done report, final) →
    report.passed = true → ∀ index, setup.motorBus.LeavesOff Event.busAction final.trace index

/-- A hold that passes leaves every drive that it selected disabled, with nothing under way that
enables it. -/
def GroupVerdictSound {Drive : Type} (drives : InstalledDrives Drive) (world : GateWorld)
    (hold : GroupHold) : Prop :=
  ∀ fuel report final, hold.run world fuel (.start {}) = (.done report, final) →
    report.Passed → ∀ drive, drives.endpoint drive ∈ hold.endpoints →
      drives.bus.LeavesOff (GateEvent.busAction world.interface) final.log drive

section Passing

instance (report : MotorGroupHoldReport) : Decidable report.Passed :=
  decidable_of_iff
    (report.errors = [] ∧ (AllValues report.commandCount fun value => 0 < value) ∧
      (AllValues report.feedbackCount fun value => 0 < value) ∧
      (AllValues report.enableAttempts fun value => value = 1) ∧
      (AllValues report.disableAttempts fun value => 3 ≤ value) ∧
      AllValues report.finalStatus fun value => value = some "disabled")
    ⟨fun ⟨errors, commands, feedback, enables, disables, disabled⟩ =>
        ⟨errors, commands, feedback, enables, disables, disabled⟩,
      fun passed => ⟨passed.errors, passed.commands, passed.feedback, passed.enables,
        passed.disables, passed.disabled⟩⟩

/-- A reply of a motor of the waist at rest. -/
def waistReply (canId status : UInt8) : ReceiveAnswer :=
  .frame
    { interface := "kcan1"
      canId := canId.toNat + 0x10
      data := [status <<< 4 ||| canId, 0x80, 0, 0x7F, 0xF7, 0xFF, 25, 25]
      isExtended := false
      isRemote := false
      isError := false
      isFd := true
      bitRateSwitch := true
      softwareTimestampNs := 0
      hardwareTimestampNs := 0
      userspaceReceiveTimestampNs := 0 }

/-- The motors of the waist answer every frame, and there is time for one cycle. -/
def healthyGateWorld : GateWorld where
  interface := "kcan1"
  attemptNames := ["waist_yaw_motor", "waist_roll_motor"]
  clock call := if call < 16 then 0 else 2 + call / 1000
  send _ := .sent
  receive call := waistReply (7 + call.toUInt8 % 2) (if call = 4 ∨ call = 5 then 1 else 0)
  encodeErrorText _ := "refused"

def passedReport (outcome : Outcome String MotorGroupHoldReport) : Bool :=
  match outcome with
  | .done report => decide report.Passed
  | _ => false

def waistDrives : InstalledDrives (Fin 2) where
  endpoint drive := waistHold.endpoints.getD drive.val hipEndpoint
  named := by decide
  distinct := by decide

end Passing

end SpriteRuntime
