import SpriteRuntime.Native.TorqueGate
import SpriteRuntime.Native.JointImpedance
import SpriteRuntime.Native.PreviewSaturation
import SpriteRuntime.Native.ShutdownReach
import SpriteRuntime.Native.EnableAdmission
import SpriteRuntime.Native.TargetFreshness
import SpriteRuntime.Native.TargetAcceptance
import SpriteRuntime.Native.DrainTermination
import SpriteRuntime.Native.ErrorTexts
import SpriteRuntime.Native.ActiveSlot
import SpriteRuntime.Native.FaultStops
import SpriteRuntime.Native.StatePublication
import SpriteRuntime.Runtime.ProtectionAgreement
import SpriteRuntime.Runtime.StartupSafety
import SpriteRuntime.Runtime.EnvelopeExport
import SpriteRuntime.Runtime.PolicyAgreement
import SpriteRuntime.Native.PolicyIpcRun
import SpriteRuntime.Foundation.LinearInverse
import SpriteRuntime.Foundation.Dictionary
import SpriteRuntime.Runtime.MotorPower
import SpriteRuntime.Runtime.MultiRateControl
import SpriteRuntime.Runtime.KinematicsExport
import SpriteRuntime.Runtime.FeedbackAgreement
import SpriteRuntime.Runtime.ReceiveTimes
import SpriteRuntime.Runtime.YahboomScan
import SpriteRuntime.Runtime.SafetySupervisor
import SpriteRuntime.Foundation.LatestSample
import SpriteRuntime.Runtime.MergeCausality
import SpriteRuntime.Runtime.ModeFrames
import SpriteRuntime.Foundation.StructFormat
import SpriteRuntime.Runtime.CodecAgreement
import SpriteRuntime.Runtime.ImuPacketAgreement
import SpriteRuntime.Native.IcmFrame
import SpriteRuntime.Native.CodecSafety
import SpriteRuntime.Native.TorqueRms
import SpriteRuntime.Runtime.MitCodec
import SpriteRuntime.Runtime.ImuValidityGate
import SpriteRuntime.Runtime.BatchCommit
import SpriteRuntime.Runtime.TruncatedTorque
import SpriteRuntime.Native.BoundedRetry
import SpriteRuntime.Native.ShadowLoop
import SpriteRuntime.Native.ShadowBounds
import SpriteRuntime.Foundation.Transcript
import SpriteRuntime.Native.SlotSchedule
import SpriteRuntime.Native.SlotFrames
import SpriteRuntime.Foundation.Boxes
import SpriteRuntime.Runtime.LimitDerivation
import SpriteRuntime.Runtime.LimitCoverage
import SpriteRuntime.Runtime.DriveCommands
import SpriteRuntime.Runtime.ControllerAgreement
import SpriteRuntime.Runtime.MitEnvelope
import SpriteRuntime.Runtime.ZeroGainEcho
import SpriteRuntime.Foundation.Polyline
import SpriteRuntime.Runtime.CommandProfile
import SpriteRuntime.Runtime.CommandSchedule
import SpriteRuntime.Foundation.Streak
import SpriteRuntime.Runtime.ClampWatchdog
import SpriteRuntime.Foundation.Fnv
import SpriteRuntime.Runtime.NameHash
import SpriteRuntime.Foundation.Wrap
import SpriteRuntime.Runtime.Heading
import SpriteRuntime.Foundation.RunningMoments
import SpriteRuntime.Native.StaticBias
import SpriteRuntime.Foundation.Trigonometry
import SpriteRuntime.Native.AttitudeFilter
import SpriteRuntime.Native.AttitudeFilter
import SpriteRuntime.Foundation.Pacing
import SpriteRuntime.Foundation.Appends
import SpriteRuntime.Runtime.DamiaoFeedback
import SpriteRuntime.Runtime.ZeroGainProbe
import SpriteRuntime.Runtime.FullBodyProbe
import SpriteRuntime.Foundation.Audit
import SpriteRuntime.Runtime.PythonValue
import SpriteRuntime.Runtime.HardwareTables
import SpriteRuntime.Runtime.HardwareRecord
import SpriteRuntime.Runtime.HardwareInventory
import SpriteRuntime.Runtime.HardwareConfig
import SpriteRuntime.Runtime.CheckedInventory
import SpriteRuntime.Runtime.InventoryMap
import SpriteRuntime.Runtime.InventoryEndpoints
import SpriteRuntime.Runtime.InventorySoundness
import SpriteRuntime.Foundation.Motion
import SpriteRuntime.Runtime.JointMotion
import SpriteRuntime.Runtime.QuaternionRoundTrip
import SpriteRuntime.Foundation.InPlace
import SpriteRuntime.Runtime.ContractUpdate
import SpriteRuntime.Foundation.Percentile
import SpriteRuntime.Runtime.ReceiveAudit
import SpriteRuntime.Foundation.CatchUp
import SpriteRuntime.Runtime.ShadowSchedule
import SpriteRuntime.Foundation.Recheck
import SpriteRuntime.Native.PolicyReplay
import SpriteRuntime.Native.ReplayFreshness
import SpriteRuntime.Runtime.NativePolicyClient
import SpriteRuntime.Runtime.ClientFreshness
import SpriteRuntime.Foundation.Settling
import SpriteRuntime.Runtime.PoweredGate
import SpriteRuntime.Runtime.AnklePairCommissioning
import SpriteRuntime.Runtime.SingleJointHold
import SpriteRuntime.Runtime.GateContainment
import SpriteRuntime.Foundation.LossyBus
import SpriteRuntime.Native.MotorBus
import SpriteRuntime.Runtime.GateDrives
import SpriteRuntime.Runtime.DisabledVerdict
import SpriteRuntime.Runtime.CanSocket
import SpriteRuntime.Foundation.Interview
import SpriteRuntime.Runtime.CanTransmitters
import SpriteRuntime.Runtime.RegisterAudit
import SpriteRuntime.Runtime.RegisterTranscript
