import VoiceProcessing.Binary.Decimal
import VoiceProcessing.Native.Record
import VoiceProcessing.Processor.Basic

/-!
# Inspection texts

Handles, processors and the records of the native library have a text for people who look into a
running program. It is made of names, numbers, optional values and records with named fields, on one
line. A record that does not show all of its fields ends in two points.
-/

namespace VoiceProcessing.Inspection

/-- The text of a truth value. -/
def ofBool (b : Bool) : String :=
  if b then "true" else "false"

/-- The text of an integer. -/
def ofInt32 (n : Int32) : String :=
  toString n.toInt

/-- The text of a value that may be missing. -/
def ofOption {α : Type} (text : α → String) : Option α → String
  | none => "None"
  | some a => "Some(" ++ text a ++ ")"

/-- The text of a field. -/
def field (name text : String) : String :=
  name ++ ": " ++ text

/-- The text of a record with the given parts between its braces. -/
def braced (name : String) (parts : List String) : String :=
  name ++ " \x7b " ++ ", ".intercalate parts ++ " \x7d"

/-- The text of a record that shows all of its fields. -/
def record (name : String) (fields : List (String × String)) : String :=
  braced name (fields.map fun (label, text) => field label text)

/-- The text of a record that hides some of its fields. -/
def abridged (name : String) (fields : List (String × String)) : String :=
  braced name ((fields.map fun (label, text) => field label text) ++ [".."])

/-- The text of a stream format. -/
def ofStreamFormat (s : StreamFormat) : String :=
  record "StreamConfig" [("num_channels", toString s.channelCount)]

/-- The text of a delay. -/
def ofStreamDelay : StreamDelay → String
  | .agnostic => "Agnostic"
  | .fixed ms => record "Fixed" [("ms", ofInt32 ms)]

/-- The text of a snapshot. -/
def ofStatistics (s : Statistics) : String :=
  record "Statistics"
    [("echo_return_loss", s.echoReturnLoss.text),
      ("echo_return_loss_enhancement", s.echoReturnLossEnhancement.text),
      ("divergent_filter_fraction", s.divergentFilterFraction.text),
      ("residual_echo_likelihood", s.residualEchoLikelihood.text),
      ("delay_median_ms", ofInt32 s.delayMedianMs),
      ("delay_std_ms", ofInt32 s.delayDeviationMs),
      ("delay_ms", ofInt32 s.delayMs)]

/-- The text of a handle, without its engine and its scratch buffers. -/
def ofHandle {ε : Type} (h : Handle ε) : String :=
  abridged "Handle"
    [("capture", ofStreamFormat h.capture),
      ("render", ofStreamFormat h.render),
      ("stream_delay", ofStreamDelay h.streamDelay),
      ("stats", ofStatistics h.statistics)]

/-- The text of a noise suppression level. -/
def ofNoiseLevel : NoiseLevel → String
  | .low => "Low"
  | .moderate => "Moderate"
  | .high => "High"
  | .veryHigh => "VeryHigh"

/-- The text of the settings of an echo canceller. -/
def ofEchoCanceller (c : EchoCanceller) : String :=
  record "EchoCanceller"
    [("mobile_mode", ofBool c.mobileMode), ("stream_delay", ofStreamDelay c.streamDelay)]

/-- The text of the settings of a gain controller. -/
def ofGainController (c : GainController) : String :=
  record "GainController"
    [("input_volume_controller", ofBool c.inputVolumeController),
      ("headroom_db", c.headroomDb.text),
      ("max_gain_db", c.maxGainDb.text),
      ("fixed_gain_db", c.fixedGainDb.text)]

/-- The text of the settings of a noise suppressor. -/
def ofNoiseSuppression (c : NoiseSuppression) : String :=
  record "NoiseSuppression" [("level", ofNoiseLevel c.level)]

/-- The text of the settings of a high-pass filter. -/
def ofHighPassFilter (c : HighPassFilter) : String :=
  record "HighPassFilter" [("apply_in_full_band", ofBool c.fullBand)]

/-- The text of the settings of an emulated microphone gain. -/
def ofMicGainEmulation (c : MicGainEmulation) : String :=
  record "AnalogMicGainEmulation" [("initial_level", toString c.initialLevel.toNat)]

/-- The text of the gains of the capture stream. -/
def ofCaptureLevelAdjustment (c : CaptureLevelAdjustment) : String :=
  record "CaptureLevelAdjustment"
    [("pre_gain_factor", c.preGain.text),
      ("post_gain_factor", c.postGain.text),
      ("analog_mic_gain_emulation", ofOption ofMicGainEmulation c.micGainEmulation)]

/-- The text of a configuration. -/
def ofConfig (c : Config) : String :=
  record "Config"
    [("echo_canceller", ofOption ofEchoCanceller c.echoCanceller),
      ("gain_controller", ofOption ofGainController c.gainController),
      ("noise_suppression", ofOption ofNoiseSuppression c.noiseSuppression),
      ("high_pass_filter", ofOption ofHighPassFilter c.highPassFilter),
      ("capture_level_adjustment", ofOption ofCaptureLevelAdjustment c.captureLevelAdjustment),
      ("capture_channels", toString c.captureChannels.toNat),
      ("render_channels", toString c.renderChannels.toNat)]

/-- The text of a processor. -/
def ofProcessor {ε : Type} (p : Processor ε) : String :=
  record "Processor" [("handle", ofHandle p.handle), ("config", ofConfig p.config)]

/-- The text of an instance of the native library, which shows nothing of itself. -/
def ofInstance : String :=
  abridged "WapAudioProcessing" []

/-- The text of a wire format. -/
def ofWireFormat (w : Native.WireFormat) : String :=
  record "WapStreamConfig"
    [("sample_rate_hz", ofInt32 w.sampleRateHz), ("num_channels", ofInt32 w.channels)]

/-- The two fields of a flagged value. -/
def flaggedFields {α : Type} (text : α → String) (name : String) (x : Native.Flagged α) :
    List (String × String) :=
  [("has_" ++ name, ofBool x.present), (name, text x.value)]

/-- The text of the statistics that the native library writes. -/
def ofNativeStats (s : Native.NativeStats) : String :=
  record "WapStats"
    (flaggedFields Binary.text "echo_return_loss" s.echoReturnLoss
      ++ flaggedFields Binary.text "echo_return_loss_enhancement" s.echoReturnLossEnhancement
      ++ flaggedFields Binary.text "divergent_filter_fraction" s.divergentFilterFraction
      ++ flaggedFields ofInt32 "delay_median_ms" s.delayMedianMs
      ++ flaggedFields ofInt32 "delay_standard_deviation_ms" s.delayDeviationMs
      ++ flaggedFields Binary.text "residual_echo_likelihood" s.residualEchoLikelihood
      ++ flaggedFields Binary.text "residual_echo_likelihood_recent_max"
        s.residualEchoLikelihoodMax
      ++ flaggedFields ofInt32 "delay_ms" s.delayMs)

end VoiceProcessing.Inspection
