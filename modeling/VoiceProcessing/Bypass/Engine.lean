import VoiceProcessing.Binary.Logarithm
import VoiceProcessing.Bypass.Power
import VoiceProcessing.Engine.Basic

/-!
# The bypass engine

An engine that leaves audio untouched. It checks frames, keeps hints, and measures the echo return
loss between the latest render and capture frames, so that all that surrounds an engine can be used
without one. It keeps everything in its own state and needs no world.
-/

namespace VoiceProcessing

/-- The state of a bypass engine. -/
structure Bypass where
  config : Config
  capture : StreamFormat
  render : StreamFormat
  /-- The delay hint, within its range. -/
  delayMs : Int32 := 0
  /-- The analog level, within its range. -/
  analogLevel : Int32 := 255
  outputMuted : Bool := false
  keyPressed : Bool := false
  /-- The power of the latest render frame. -/
  renderPower : Option Binary64 := none
  /-- What was measured at the latest capture frame. -/
  stats : EngineStats := {}
  deriving DecidableEq

namespace Bypass

/-- The greatest delay hint. -/
def maxDelayMs : Int32 := 500

/-- The greatest analog level. -/
def maxAnalogLevel : Int32 := 255

/-- Frames of no more than this power, one ten-billionth, count as silent. -/
def silencePower : Binary64 := Binary.ofBits 0x3DDB7CDFD9D7BDBB

/-- `x` moved into the range from zero to `high`. -/
def clampLevel (high x : Int32) : Int32 :=
  if x < 0 then 0 else if high < x then high else x

/-- The format of the stream in a direction. -/
def format (b : Bypass) : Direction → StreamFormat
  | .capture => b.capture
  | .render => b.render

/-- Channel buffers are accepted when there is one for each channel and each holds one frame. -/
def checkChannels (format : StreamFormat) (channels : List (List Binary32)) :
    Except EngineError Unit :=
  if channels.length ≠ format.channelCount then .error ⟨Status.badChannelCount⟩
  else if channels.any (·.length ≠ samplesPerFrame) then .error ⟨Status.badDataLength⟩
  else .ok ()

/-- Interleaved samples are accepted when they are one frame of all channels. -/
def checkSamples (format : StreamFormat) (samples : List Int16) : Except EngineError Unit :=
  if samples.length ≠ format.frameSamples then .error ⟨Status.badDataLength⟩
  else .ok ()

/-- The echo return loss in decibels, unless either side is silent or unknown. -/
def echoReturnLoss (renderPower : Option Binary64) (capturePower : Binary64) : Option Binary64 :=
  match renderPower with
  | some renderPower =>
    if silencePower.less renderPower && silencePower.less capturePower then
      some (10 * (renderPower / capturePower).log10)
    else none
  | none => none

/-- What there is to report after a capture frame: nothing without an echo canceller. As no echo is
removed, the output carries all of it. -/
def measure (b : Bypass) (capturePower : Binary64) : EngineStats :=
  match b.config.echoCanceller with
  | none => {}
  | some _ =>
    { echoReturnLoss := echoReturnLoss b.renderPower capturePower
      echoReturnLossEnhancement := some 0
      delayMedianMs := some b.delayMs
      delayDeviationMs := some 0
      delayMs := some b.delayMs }

/-- Take note of an accepted frame of the given power. -/
def observe (b : Bypass) (direction : Direction) (power : Binary64) : Bypass :=
  match direction with
  | .capture => { b with stats := b.measure power }
  | .render => { b with renderPower := some power }

/-- Take note of a hint, moved into its range. -/
def takeHint (b : Bypass) : Hint → Bypass
  | .delay ms => { b with delayMs := clampLevel maxDelayMs ms }
  | .analogLevel level => { b with analogLevel := clampLevel maxAnalogLevel level }
  | .outputMuted muted => { b with outputMuted := muted }
  | .keyPressed pressed => { b with keyPressed := pressed }

instance : Engine Bypass Unit where
  create config capture render world := (.ok { config, capture, render }, world)
  reset b world := (.ok (), { b with renderPower := none, stats := {} }, world)
  applyConfig config b world := (.ok (), { b with config }, world)
  processFloat direction channels b world :=
    match checkChannels (b.format direction) channels with
    | .error e => (.error e, channels, b, world)
    | .ok () => (.ok (), channels, b.observe direction (Power.ofChannels channels), world)
  processPcm direction samples b world :=
    match checkSamples (b.format direction) samples with
    | .error e => (.error e, samples, b, world)
    | .ok () => (.ok (), samples, b.observe direction (Power.ofPcm samples), world)
  statistics b world := (b.stats, b, world)
  hint hint b world := (b.takeHint hint, world)
  delayMs b world := (b.delayMs, b, world)
  recommendedLevel b world := (b.analogLevel, b, world)
  destroy _ world := world

instance : LawfulEngine Bypass Unit where
  lengths_processFloat direction channels b _ := by
    simp only [Engine.processFloat]
    cases checkChannels (b.format direction) channels <;> rfl
  length_processPcm direction samples b _ := by
    simp only [Engine.processPcm]
    cases checkSamples (b.format direction) samples <;> rfl

end Bypass

end VoiceProcessing
