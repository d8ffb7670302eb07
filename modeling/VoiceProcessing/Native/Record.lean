import VoiceProcessing.Configuration
import VoiceProcessing.Frame
import VoiceProcessing.Statistics

/-!
# The records of the native library

The library takes and returns flat records. Its configuration has an enabling flag beside the
parameters of each component, which are the defaults when the component is disabled; its statistics
have a flag beside each value, and the value means nothing when the flag is not set.
-/

namespace VoiceProcessing.Native

/-- A configuration as the library takes it. -/
structure FlatConfig where
  levelAdjustmentEnabled : Bool
  preGain : Binary32
  postGain : Binary32
  micGainEmulationEnabled : Bool
  micGainInitialLevel : Int32
  highPassEnabled : Bool
  highPassFullBand : Bool
  echoCancellerEnabled : Bool
  echoCancellerMobile : Bool
  /-- Let the echo canceller enforce high-pass filtering. -/
  echoCancellerEnforceHighPass : Bool
  noiseSuppressionEnabled : Bool
  noiseLevel : NoiseLevel
  gainControllerEnabled : Bool
  inputVolumeControllerEnabled : Bool
  adaptiveGainEnabled : Bool
  headroomDb : Binary32
  maxGainDb : Binary32
  fixedGainDb : Binary32
  deriving DecidableEq

/-- The flat form of a configuration. High-pass filtering is enforced by the echo canceller exactly
when the filter itself is enabled, and the gain controller is always adaptive. -/
def FlatConfig.ofConfig (c : Config) : FlatConfig :=
  let adjustment := c.captureLevelAdjustment.getD {}
  let micGain := adjustment.micGainEmulation.getD {}
  let highPass := c.highPassFilter.getD {}
  let echo := c.echoCanceller.getD {}
  let noise := c.noiseSuppression.getD {}
  let gain := c.gainController.getD {}
  { levelAdjustmentEnabled := c.captureLevelAdjustment.isSome
    preGain := adjustment.preGain
    postGain := adjustment.postGain
    micGainEmulationEnabled := c.captureLevelAdjustment.any (·.micGainEmulation.isSome)
    micGainInitialLevel := Int32.ofNat micGain.initialLevel.toNat
    highPassEnabled := c.highPassFilter.isSome
    highPassFullBand := highPass.fullBand
    echoCancellerEnabled := c.echoCanceller.isSome
    echoCancellerMobile := echo.mobileMode
    echoCancellerEnforceHighPass := c.highPassFilter.isSome
    noiseSuppressionEnabled := c.noiseSuppression.isSome
    noiseLevel := noise.level
    gainControllerEnabled := c.gainController.isSome
    inputVolumeControllerEnabled := gain.inputVolumeController
    adaptiveGainEnabled := c.gainController.isSome
    headroomDb := gain.headroomDb
    maxGainDb := gain.maxGainDb
    fixedGainDb := gain.fixedGainDb }

/-- A stream format as the library takes it. -/
structure WireFormat where
  sampleRateHz : Int32
  channels : Int32
  deriving DecidableEq

namespace WireFormat

/-- The wire form of a stream format. -/
def ofStream (s : StreamFormat) : WireFormat where
  sampleRateHz := Int32.ofNat VoiceProcessing.sampleRateHz
  channels := Int32.ofNat s.channelCount

/-- The number of channels of a wire format. -/
def channelCount (w : WireFormat) : Nat :=
  w.channels.toNatClampNeg

end WireFormat

/-- A value that means something only when it is flagged as present. -/
structure Flagged (α : Type) where
  present : Bool
  value : α
  deriving DecidableEq

namespace Flagged

variable {α : Type}

/-- An absent value. -/
def absent (value : α) : Flagged α :=
  ⟨false, value⟩

/-- The value, if it is present. -/
def toOption (x : Flagged α) : Option α :=
  if x.present then some x.value else none

end Flagged

/-- Statistics as the library writes them. -/
structure NativeStats where
  echoReturnLoss : Flagged Binary64 := .absent 0
  echoReturnLossEnhancement : Flagged Binary64 := .absent 0
  divergentFilterFraction : Flagged Binary64 := .absent 0
  delayMedianMs : Flagged Int32 := .absent 0
  delayDeviationMs : Flagged Int32 := .absent 0
  residualEchoLikelihood : Flagged Binary64 := .absent 0
  residualEchoLikelihoodMax : Flagged Binary64 := .absent 0
  delayMs : Flagged Int32 := .absent 0
  deriving DecidableEq

/-- The statistics that are present. -/
def NativeStats.toEngineStats (s : NativeStats) : EngineStats where
  echoReturnLoss := s.echoReturnLoss.toOption
  echoReturnLossEnhancement := s.echoReturnLossEnhancement.toOption
  divergentFilterFraction := s.divergentFilterFraction.toOption
  delayMedianMs := s.delayMedianMs.toOption
  delayDeviationMs := s.delayDeviationMs.toOption
  residualEchoLikelihood := s.residualEchoLikelihood.toOption
  residualEchoLikelihoodMax := s.residualEchoLikelihoodMax.toOption
  delayMs := s.delayMs.toOption

end VoiceProcessing.Native
