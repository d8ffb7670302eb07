import VoiceProcessing.Proofs.RecordRoundTrip
import VoiceProcessing.Proofs.Reconfiguration

/-!
# What the library can tell of a configuration

The flat form of a configuration has parameters also for components that are disabled, the same as
an enabled component may have. The flags tell the two apart, and so all settings can be read off the
flat form again, but for the delay of the echo canceller, which the library is told on its own.

It follows that two configurations have the same flat form exactly if they have the same settings
besides that delay. Channel counts are no settings.
-/

namespace VoiceProcessing

/-- A component of the processing chain that can be enabled. The emulated gain of the microphone is
part of the level adjustment. -/
inductive Component where
  | echoCanceller
  | gainController
  | noiseSuppression
  | highPassFilter
  | captureLevelAdjustment
  | micGainEmulation

/-- An echo canceller that is told no delay. -/
def EchoCanceller.withoutDelay (echo : EchoCanceller) : EchoCanceller :=
  { echo with streamDelay := .agnostic }

namespace Config

/-- Whether a component is enabled. -/
def enables (c : Config) : Component → Bool
  | .echoCanceller => c.echoCanceller.isSome
  | .gainController => c.gainController.isSome
  | .noiseSuppression => c.noiseSuppression.isSome
  | .highPassFilter => c.highPassFilter.isSome
  | .captureLevelAdjustment => c.captureLevelAdjustment.isSome
  | .micGainEmulation => c.captureLevelAdjustment.any (·.micGainEmulation.isSome)

/-- The configuration that differs in nothing but that its echo canceller is told no delay. -/
def withoutDelay (c : Config) : Config :=
  { c with echoCanceller := c.echoCanceller.map EchoCanceller.withoutDelay }

variable {a b c : Config}

/-- Having the same settings does not depend on the order. -/
theorem SameSettings.symm (hsame : a.SameSettings b) : b.SameSettings a :=
  ⟨hsame.echoCanceller.symm, hsame.gainController.symm, hsame.noiseSuppression.symm,
    hsame.highPassFilter.symm, hsame.captureLevelAdjustment.symm⟩

/-- Settings that are the same as the same ones are the same. -/
theorem SameSettings.trans (hab : a.SameSettings b) (hbc : b.SameSettings c) : a.SameSettings c :=
  ⟨hab.echoCanceller.trans hbc.echoCanceller, hab.gainController.trans hbc.gainController,
    hab.noiseSuppression.trans hbc.noiseSuppression, hab.highPassFilter.trans hbc.highPassFilter,
    hab.captureLevelAdjustment.trans hbc.captureLevelAdjustment⟩

/-- The same components are enabled by the same settings. -/
theorem SameSettings.enables (hsame : a.SameSettings b) : a.enables = b.enables := by
  funext component
  cases component with
  | echoCanceller => exact congrArg Option.isSome hsame.echoCanceller
  | gainController => exact congrArg Option.isSome hsame.gainController
  | noiseSuppression => exact congrArg Option.isSome hsame.noiseSuppression
  | highPassFilter => exact congrArg Option.isSome hsame.highPassFilter
  | captureLevelAdjustment => exact congrArg Option.isSome hsame.captureLevelAdjustment
  | micGainEmulation =>
    exact congrArg (Option.any (·.micGainEmulation.isSome)) hsame.captureLevelAdjustment

/-- A component is enabled whatever the delay is. -/
theorem enables_withoutDelay (c : Config) : c.withoutDelay.enables = c.enables := by
  funext component
  cases component with
  | echoCanceller => exact Option.isSome_map
  | _ => rfl

end Config

namespace Native.FlatConfig

open Boundary (whenEnabled byteOfInt whenEnabled_getD whenEnabled_getD_self byteOfInt_ofNat)

/-- The settings that a flat configuration tells. -/
def settings (flat : FlatConfig) : Config where
  echoCanceller := whenEnabled flat.echoCancellerEnabled { mobileMode := flat.echoCancellerMobile }
  gainController :=
    whenEnabled flat.gainControllerEnabled
      { inputVolumeController := flat.inputVolumeControllerEnabled
        headroomDb := flat.headroomDb
        maxGainDb := flat.maxGainDb
        fixedGainDb := flat.fixedGainDb }
  noiseSuppression := whenEnabled flat.noiseSuppressionEnabled { level := flat.noiseLevel }
  highPassFilter := whenEnabled flat.highPassEnabled { fullBand := flat.highPassFullBand }
  captureLevelAdjustment :=
    whenEnabled flat.levelAdjustmentEnabled
      { preGain := flat.preGain
        postGain := flat.postGain
        micGainEmulation :=
          whenEnabled flat.micGainEmulationEnabled
            { initialLevel := byteOfInt flat.micGainInitialLevel } }

/-- The emulated gain of the microphone is told with its level adjustment. -/
theorem captureLevelAdjustment_settings (c : Config) :
    (ofConfig c).settings.captureLevelAdjustment = c.captureLevelAdjustment := by
  simp only [settings, ofConfig, byteOfInt_ofNat]
  cases c.captureLevelAdjustment with
  | none => rfl
  | some adjustment =>
    have hmicGain := whenEnabled_getD_self adjustment.micGainEmulation {}
    exact congrArg (fun micGain => some { adjustment with micGainEmulation := micGain }) hmicGain

/-- The flat form of a configuration tells all its settings but the delay. -/
theorem settings_ofConfig (c : Config) : (ofConfig c).settings.SameSettings c.withoutDelay where
  echoCanceller := whenEnabled_getD EchoCanceller.withoutDelay c.echoCanceller {}
  gainController := whenEnabled_getD_self c.gainController {}
  noiseSuppression := whenEnabled_getD_self c.noiseSuppression {}
  highPassFilter := whenEnabled_getD_self c.highPassFilter {}
  captureLevelAdjustment := captureLevelAdjustment_settings c

/-- The delay is not part of the flat form. -/
theorem ofConfig_withoutDelay (c : Config) : ofConfig c.withoutDelay = ofConfig c := by
  obtain ⟨echo?, gain, noise, highPass, adjustment, capture, render⟩ := c
  cases echo? <;> rfl

end Native.FlatConfig

open Native in
/-- Two configurations have the same flat form exactly if they have the same settings, besides the
delay of the echo canceller. In particular it shows in the flat form which components are enabled,
also when their settings are the defaults that a disabled component is given. -/
theorem flatConfigs_tellSettings (a b : Config) :
    (FlatConfig.ofConfig a = FlatConfig.ofConfig b ↔ a.withoutDelay.SameSettings b.withoutDelay) ∧
      ∀ component, a.enables component ≠ b.enables component →
        FlatConfig.ofConfig a ≠ FlatConfig.ofConfig b := by
  have htold (hflat : FlatConfig.ofConfig a = FlatConfig.ofConfig b) :
      a.withoutDelay.SameSettings b.withoutDelay := by
    have ha := (FlatConfig.settings_ofConfig a).symm
    rw [hflat] at ha
    exact ha.trans (FlatConfig.settings_ofConfig b)
  refine ⟨⟨htold, ?_⟩, ?_⟩
  · intro hsame
    rw [← FlatConfig.ofConfig_withoutDelay a, ← FlatConfig.ofConfig_withoutDelay b]
    exact FlatConfig.ofConfig_congr hsame
  · intro component hdiffers hflat
    have henables := (htold hflat).enables
    rw [Config.enables_withoutDelay, Config.enables_withoutDelay] at henables
    exact hdiffers (congrFun henables component)

open Native in
/-- A level adjustment that emulates the gain of the microphone at its default level is told from
one that does not, and from none at all. Other delays and channel counts are not told. -/
theorem flatConfigs_tellSettings_of_defaults :
    let emulating : Config := { captureLevelAdjustment := some { micGainEmulation := some {} } }
    let adjusting : Config := { captureLevelAdjustment := some {} }
    let first : Config := { echoCanceller := some { streamDelay := .fixed 40 } }
    let second : Config := { echoCanceller := some {}, captureChannels := 9 }
    FlatConfig.ofConfig emulating ≠ FlatConfig.ofConfig adjusting ∧
      FlatConfig.ofConfig adjusting ≠ FlatConfig.ofConfig {} ∧
      FlatConfig.ofConfig first = FlatConfig.ofConfig second := by
  intro emulating adjusting first second
  refine ⟨?_, ?_, ?_⟩
  · exact (flatConfigs_tellSettings emulating adjusting).2 .micGainEmulation nofun
  · exact (flatConfigs_tellSettings adjusting {}).2 .captureLevelAdjustment nofun
  · exact (flatConfigs_tellSettings first second).1.mpr ⟨rfl, rfl, rfl, rfl, rfl⟩

end VoiceProcessing
