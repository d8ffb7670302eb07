import VoiceProcessing.Configuration
import VoiceProcessing.Statistics

/-!
# Records at the boundary

Programs on the other side of the boundary see flat records of booleans, 32-bit integers and
numbers. They may hold anything: reading a configuration normalises what is out of range, and
writing one gives disabled components their default parameters.
-/

namespace VoiceProcessing.Boundary

/-- Settings of the echo canceller. A negative delay is no delay known in advance. -/
structure EchoCancellerRecord where
  enabled : Bool
  mobileMode : Bool
  streamDelayMs : Int32
  deriving DecidableEq

/-- Settings of the gain controller. -/
structure GainControllerRecord where
  enabled : Bool
  inputVolumeController : Bool
  headroomDb : Binary32
  maxGainDb : Binary32
  fixedGainDb : Binary32
  deriving DecidableEq

/-- Settings of the noise suppressor. A level that stands for none is the default level. -/
structure NoiseSuppressionRecord where
  enabled : Bool
  level : Int32
  deriving DecidableEq

/-- Settings of the high-pass filter. -/
structure HighPassFilterRecord where
  enabled : Bool
  fullBand : Bool
  deriving DecidableEq

/-- Gains of the capture stream. The level of the emulated gain is clamped to a byte. -/
structure CaptureLevelAdjustmentRecord where
  enabled : Bool
  preGain : Binary32
  postGain : Binary32
  micGainEmulationEnabled : Bool
  micGainInitialLevel : Int32
  deriving DecidableEq

/-- A configuration. -/
structure ConfigRecord where
  echoCanceller : EchoCancellerRecord
  gainController : GainControllerRecord
  noiseSuppression : NoiseSuppressionRecord
  highPassFilter : HighPassFilterRecord
  captureLevelAdjustment : CaptureLevelAdjustmentRecord
  captureChannels : Int32
  renderChannels : Int32
  deriving DecidableEq

/-- The delay that a number of milliseconds stands for. -/
def streamDelayOfMs (ms : Int32) : StreamDelay :=
  if ms < 0 then .agnostic else .fixed ms

/-- The number of milliseconds that stands for a delay. -/
def msOfStreamDelay : StreamDelay → Int32
  | .agnostic => -1
  | .fixed ms => ms

/-- A channel count; zero, which no handle accepts, if it does not fit into 16 bits. -/
def channelsOfInt (n : Int32) : UInt16 :=
  if 0 ≤ n ∧ n ≤ 65535 then UInt16.ofNat n.toNatClampNeg else 0

/-- A level clamped to a byte. -/
def byteOfInt (n : Int32) : UInt8 :=
  UInt8.ofNat (min n.toNatClampNeg 255)

/-- Settings of a component, if it is enabled. -/
def whenEnabled {α : Type} (enabled : Bool) (settings : α) : Option α :=
  if enabled then some settings else none

namespace ConfigRecord

/-- The configuration that a record stands for. -/
def toConfig (r : ConfigRecord) : Config where
  echoCanceller :=
    whenEnabled r.echoCanceller.enabled
      { mobileMode := r.echoCanceller.mobileMode
        streamDelay := streamDelayOfMs r.echoCanceller.streamDelayMs }
  gainController :=
    whenEnabled r.gainController.enabled
      { inputVolumeController := r.gainController.inputVolumeController
        headroomDb := r.gainController.headroomDb
        maxGainDb := r.gainController.maxGainDb
        fixedGainDb := r.gainController.fixedGainDb }
  noiseSuppression :=
    whenEnabled r.noiseSuppression.enabled
      { level := (NoiseLevel.ofWire? r.noiseSuppression.level).getD .moderate }
  highPassFilter :=
    whenEnabled r.highPassFilter.enabled { fullBand := r.highPassFilter.fullBand }
  captureLevelAdjustment :=
    whenEnabled r.captureLevelAdjustment.enabled
      { preGain := r.captureLevelAdjustment.preGain
        postGain := r.captureLevelAdjustment.postGain
        micGainEmulation :=
          whenEnabled r.captureLevelAdjustment.micGainEmulationEnabled
            { initialLevel := byteOfInt r.captureLevelAdjustment.micGainInitialLevel } }
  captureChannels := channelsOfInt r.captureChannels
  renderChannels := channelsOfInt r.renderChannels

/-- The record that stands for a configuration. -/
def ofConfig (c : Config) : ConfigRecord :=
  let echo := c.echoCanceller.getD {}
  let gain := c.gainController.getD {}
  let noise := c.noiseSuppression.getD {}
  let highPass := c.highPassFilter.getD {}
  let adjustment := c.captureLevelAdjustment.getD {}
  let micGain := adjustment.micGainEmulation.getD {}
  { echoCanceller :=
      { enabled := c.echoCanceller.isSome
        mobileMode := echo.mobileMode
        streamDelayMs := msOfStreamDelay echo.streamDelay }
    gainController :=
      { enabled := c.gainController.isSome
        inputVolumeController := gain.inputVolumeController
        headroomDb := gain.headroomDb
        maxGainDb := gain.maxGainDb
        fixedGainDb := gain.fixedGainDb }
    noiseSuppression :=
      { enabled := c.noiseSuppression.isSome
        level := noise.level.wire }
    highPassFilter :=
      { enabled := c.highPassFilter.isSome
        fullBand := highPass.fullBand }
    captureLevelAdjustment :=
      { enabled := c.captureLevelAdjustment.isSome
        preGain := adjustment.preGain
        postGain := adjustment.postGain
        micGainEmulationEnabled := adjustment.micGainEmulation.isSome
        micGainInitialLevel := Int32.ofNat micGain.initialLevel.toNat }
    captureChannels := Int32.ofNat c.captureChannels.toNat
    renderChannels := Int32.ofNat c.renderChannels.toNat }

/-- The record that programs start from: everything disabled, one channel each way. -/
def default : ConfigRecord :=
  ofConfig {}

end ConfigRecord

/-- The snapshot of a handle. -/
structure StatisticsRecord where
  echoReturnLoss : Binary64 := 0
  echoReturnLossEnhancement : Binary64 := 0
  divergentFilterFraction : Binary64 := 0
  residualEchoLikelihood : Binary64 := 0
  delayMedianMs : Int32 := 0
  delayDeviationMs : Int32 := 0
  delayMs : Int32 := 0
  deriving DecidableEq

/-- The record of a snapshot. -/
def StatisticsRecord.ofStatistics (s : Statistics) : StatisticsRecord where
  echoReturnLoss := s.echoReturnLoss
  echoReturnLossEnhancement := s.echoReturnLossEnhancement
  divergentFilterFraction := s.divergentFilterFraction
  residualEchoLikelihood := s.residualEchoLikelihood
  delayMedianMs := s.delayMedianMs
  delayDeviationMs := s.delayDeviationMs
  delayMs := s.delayMs

end VoiceProcessing.Boundary
