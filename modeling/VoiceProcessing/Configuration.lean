import VoiceProcessing.Binary.Arithmetic

/-!
# Processing configuration

A configuration lists the components of the processing chain: a component is enabled by giving its
parameters and disabled by their absence. Configurations are replaced as a whole. The channel counts
are read when a handle is created and ignored afterwards.

Equality of the type compares gains bit for bit; `Config.agrees` compares them as numbers.
-/

namespace VoiceProcessing

/-- The latency between the render and the capture path, as told to the echo canceller. -/
inductive StreamDelay where
  /-- The engine estimates the delay on its own. -/
  | agnostic
  /-- A delay known in advance. -/
  | fixed (ms : Int32)
  deriving DecidableEq

/-- The delay forwarded to an engine: zero stands for no knowledge. -/
def StreamDelay.hintMs : StreamDelay → Int32
  | agnostic => 0
  | fixed ms => ms

/-- Settings of the echo canceller. -/
structure EchoCanceller where
  /-- Use the variant of low complexity. -/
  mobileMode : Bool := false
  streamDelay : StreamDelay := .agnostic
  deriving DecidableEq

/-- Settings of the gain controller: an adaptive gain bounded by a headroom and a maximum, and a
fixed gain in front of the limiter. -/
structure GainController where
  /-- Recommend input levels for the microphone. -/
  inputVolumeController : Bool := false
  headroomDb : Binary32 := 5
  maxGainDb : Binary32 := 50
  fixedGainDb : Binary32 := 0
  deriving DecidableEq

/-- How aggressively noise is suppressed. -/
inductive NoiseLevel where
  | low
  | moderate
  | high
  | veryHigh
  deriving DecidableEq

namespace NoiseLevel

/-- The number that stands for a level outside the program. -/
def wire : NoiseLevel → Int32
  | low => 0
  | moderate => 1
  | high => 2
  | veryHigh => 3

/-- The level that a number stands for, if any. -/
def ofWire? (value : Int32) : Option NoiseLevel :=
  if value = 0 then some low
  else if value = 1 then some moderate
  else if value = 2 then some high
  else if value = 3 then some veryHigh
  else none

theorem ofWire?_wire (level : NoiseLevel) : ofWire? level.wire = some level := by
  cases level <;> decide

end NoiseLevel

/-- Settings of the noise suppressor. -/
structure NoiseSuppression where
  level : NoiseLevel := .moderate
  deriving DecidableEq

/-- Settings of the high-pass filter. -/
structure HighPassFilter where
  /-- Filter the whole band and not only the lowest part of it. -/
  fullBand : Bool := true
  deriving DecidableEq

/-- Settings of the emulated analog gain of the microphone. -/
structure MicGainEmulation where
  initialLevel : UInt8 := 255
  deriving DecidableEq

/-- Gains applied to the capture stream around all other processing. -/
structure CaptureLevelAdjustment where
  preGain : Binary32 := 1
  postGain : Binary32 := 1
  micGainEmulation : Option MicGainEmulation := none
  deriving DecidableEq

/-- A processing configuration. -/
structure Config where
  echoCanceller : Option EchoCanceller := none
  gainController : Option GainController := none
  noiseSuppression : Option NoiseSuppression := none
  highPassFilter : Option HighPassFilter := none
  captureLevelAdjustment : Option CaptureLevelAdjustment := none
  captureChannels : UInt16 := 1
  renderChannels : UInt16 := 1
  deriving DecidableEq

/-- Whether two gain controllers have the same settings, gains being compared as numbers. -/
def GainController.agrees (a b : GainController) : Bool :=
  a.inputVolumeController == b.inputVolumeController
    && a.headroomDb.agrees b.headroomDb
    && a.maxGainDb.agrees b.maxGainDb
    && a.fixedGainDb.agrees b.fixedGainDb

/-- Whether two adjustments have the same settings, gains being compared as numbers. -/
def CaptureLevelAdjustment.agrees (a b : CaptureLevelAdjustment) : Bool :=
  a.preGain.agrees b.preGain
    && a.postGain.agrees b.postGain
    && a.micGainEmulation == b.micGainEmulation

/-- Whether a component is enabled in both or in neither of two configurations, with settings that
agree. -/
def agreesOptional {α : Type} (agrees : α → α → Bool) : Option α → Option α → Bool
  | none, none => true
  | some a, some b => agrees a b
  | _, _ => false

namespace Config

/-- Whether two configurations say the same, gains being compared as numbers. -/
def agrees (a b : Config) : Bool :=
  a.echoCanceller == b.echoCanceller
    && agreesOptional GainController.agrees a.gainController b.gainController
    && a.noiseSuppression == b.noiseSuppression
    && a.highPassFilter == b.highPassFilter
    && agreesOptional CaptureLevelAdjustment.agrees
      a.captureLevelAdjustment b.captureLevelAdjustment
    && a.captureChannels == b.captureChannels
    && a.renderChannels == b.renderChannels

/-- The delay of the echo canceller; without one there is nothing to be told. -/
def streamDelay (c : Config) : StreamDelay :=
  match c.echoCanceller with
  | some ec => ec.streamDelay
  | none => .agnostic

end Config

end VoiceProcessing
