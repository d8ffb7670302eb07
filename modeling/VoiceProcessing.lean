import VoiceProcessing.Boundary.Variable
import VoiceProcessing.Bypass.Engine
import VoiceProcessing.Handle.Operations
import VoiceProcessing.Inspection
import VoiceProcessing.Native.Engine
import VoiceProcessing.Processor.Operations
import VoiceProcessing.Proofs.HandleSteps
import VoiceProcessing.Proofs.Layout
import VoiceProcessing.Proofs.Recording
import VoiceProcessing.Proofs.FrontEnds
import VoiceProcessing.Proofs.NativeCalls
import VoiceProcessing.Proofs.Lifecycle
import VoiceProcessing.Proofs.FailedFrames
import VoiceProcessing.Proofs.Dataflow
import VoiceProcessing.Proofs.EngineGeometry
import VoiceProcessing.Proofs.Acceptance
import VoiceProcessing.Proofs.FailureStatus
import VoiceProcessing.Proofs.LatestEvent
import VoiceProcessing.Proofs.Snapshot
import VoiceProcessing.Proofs.StatisticsRequests
import VoiceProcessing.Proofs.DelayHint
import VoiceProcessing.Proofs.EchoReport
import VoiceProcessing.Proofs.BoundaryMirror
import VoiceProcessing.Proofs.StatusCodes
import VoiceProcessing.Proofs.Scratch
import VoiceProcessing.Proofs.ProcessorRefinement
import VoiceProcessing.Proofs.Closed
import VoiceProcessing.Proofs.Creation
import VoiceProcessing.Proofs.Delivery
import VoiceProcessing.Proofs.Interchange
import VoiceProcessing.Proofs.Aborts
import VoiceProcessing.Proofs.ToldLengths
import VoiceProcessing.Proofs.Splitting
import VoiceProcessing.Proofs.Merging
import VoiceProcessing.Proofs.Indistinct
import VoiceProcessing.Proofs.Reconfiguration
import VoiceProcessing.Proofs.SpecialValues
import VoiceProcessing.Proofs.Rounding
import VoiceProcessing.Proofs.SignalPower
import VoiceProcessing.Proofs.FiniteLoss
import VoiceProcessing.Proofs.FiniteStatistics
import VoiceProcessing.Proofs.EngineRefusals
import VoiceProcessing.Proofs.HintRegisters
import VoiceProcessing.Proofs.EngineReset
import VoiceProcessing.Proofs.Transparency
import VoiceProcessing.Proofs.RecordRoundTrip
import VoiceProcessing.Proofs.FlatSettings
import VoiceProcessing.Proofs.EngineReplacement
import VoiceProcessing.Proofs.FlaggedStatistics
import VoiceProcessing.Proofs.Exactness
import VoiceProcessing.Proofs.RoundingOrder
import VoiceProcessing.Proofs.RealValues
import VoiceProcessing.Proofs.Quantizer
import VoiceProcessing.Proofs.RepeatedPasses
