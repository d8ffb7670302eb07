import VoiceProcessing.Proofs.Creation

/-!
# The configuration that reaches the library

A record from beyond the boundary is read as a configuration, and the configuration is flattened for
the native library. What arrives is stated here directly in terms of the record: its flags, the
parameters of the components that it enables, and fixed parameters for all others, whatever the
record holds there. So two records are the same to the library exactly if they say the same about
what they enable.

The record may hold anything, and the delay and the channel counts do not reach the library in this
way.
-/

namespace VoiceProcessing

/-- The configuration that a call hands to the library, if it does. -/
def Native.Call.config? {ι : Type} : Native.Call ι → Option Native.FlatConfig
  | .create config | .applyConfig _ config => some config
  | _ => none

namespace Boundary

open Native

/-- The number of the noise level that a number is read as: itself or, if it is not the number of
any, that of the moderate level. -/
def noiseNumber (n : Int32) : Int32 :=
  if 0 ≤ n ∧ n ≤ 3 then n else 1

/-- The level that a number is read as: the nearest one that fits into a byte. -/
def byteLevel (n : Int32) : Int :=
  max 0 (min n.toInt 255)

/-- Whether the gain of the microphone is emulated. It is part of the level adjustment. -/
def CaptureLevelAdjustmentRecord.emulatesMicGain (r : CaptureLevelAdjustmentRecord) : Bool :=
  r.enabled && r.micGainEmulationEnabled

/-- A configuration of the library that says what a record says. -/
structure Delivers (r : ConfigRecord) (flat : FlatConfig) : Prop where
  echoCancellerEnabled : flat.echoCancellerEnabled = r.echoCanceller.enabled
  echoCancellerMobile : flat.echoCancellerMobile =
    if r.echoCanceller.enabled then r.echoCanceller.mobileMode else false
  echoCancellerEnforceHighPass : flat.echoCancellerEnforceHighPass = r.highPassFilter.enabled
  gainControllerEnabled : flat.gainControllerEnabled = r.gainController.enabled
  adaptiveGainEnabled : flat.adaptiveGainEnabled = r.gainController.enabled
  inputVolumeControllerEnabled : flat.inputVolumeControllerEnabled =
    if r.gainController.enabled then r.gainController.inputVolumeController else false
  headroomDb : flat.headroomDb = if r.gainController.enabled then r.gainController.headroomDb else 5
  maxGainDb : flat.maxGainDb = if r.gainController.enabled then r.gainController.maxGainDb else 50
  fixedGainDb : flat.fixedGainDb =
    if r.gainController.enabled then r.gainController.fixedGainDb else 0
  noiseSuppressionEnabled : flat.noiseSuppressionEnabled = r.noiseSuppression.enabled
  noiseLevel : flat.noiseLevel.wire =
    if r.noiseSuppression.enabled then noiseNumber r.noiseSuppression.level else 1
  highPassEnabled : flat.highPassEnabled = r.highPassFilter.enabled
  highPassFullBand : flat.highPassFullBand =
    if r.highPassFilter.enabled then r.highPassFilter.fullBand else true
  levelAdjustmentEnabled : flat.levelAdjustmentEnabled = r.captureLevelAdjustment.enabled
  preGain : flat.preGain =
    if r.captureLevelAdjustment.enabled then r.captureLevelAdjustment.preGain else 1
  postGain : flat.postGain =
    if r.captureLevelAdjustment.enabled then r.captureLevelAdjustment.postGain else 1
  micGainEmulationEnabled :
    flat.micGainEmulationEnabled = r.captureLevelAdjustment.emulatesMicGain
  micGainInitialLevel : flat.micGainInitialLevel.toInt =
    if r.captureLevelAdjustment.emulatesMicGain then
      byteLevel r.captureLevelAdjustment.micGainInitialLevel
    else 255

/-- A component is enabled exactly if its flag says so. -/
theorem isSome_whenEnabled {α : Type} (enabled : Bool) (settings : α) :
    (whenEnabled enabled settings).isSome = enabled := by
  cases enabled <;> rfl

/-- What is read off the settings of a component, which are others when it is disabled. -/
theorem apply_getD_whenEnabled {α β : Type} (f : α → β) (enabled : Bool) (settings other : α) :
    f ((whenEnabled enabled settings).getD other) = if enabled then f settings else f other := by
  cases enabled <;> rfl

/-- A noise level has the number that it was read from, unless that is the number of none. -/
theorem wire_getD_ofWire? (n : Int32) :
    ((NoiseLevel.ofWire? n).getD .moderate).wire = noiseNumber n := by
  by_cases hlevel : 0 ≤ n ∧ n ≤ 3
  · have hnumber : n = 0 ∨ n = 1 ∨ n = 2 ∨ n = 3 := by
      simp only [Int32.le_iff_toInt_le, ← Int32.toInt_inj] at hlevel ⊢
      have hbounds : (0 : Int32).toInt = 0 ∧ (1 : Int32).toInt = 1 ∧ (2 : Int32).toInt = 2 ∧
        (3 : Int32).toInt = 3 := ⟨rfl, rfl, rfl, rfl⟩
      omega
    rw [noiseNumber, if_pos hlevel]
    rcases hnumber with rfl | rfl | rfl | rfl <;> rfl
  · have hnone : n ≠ 0 ∧ n ≠ 1 ∧ n ≠ 2 ∧ n ≠ 3 := by
      refine ⟨?_, ?_, ?_, ?_⟩
      all_goals
        rintro rfl
        exact hlevel (by decide)
    rw [noiseNumber, if_neg hlevel, NoiseLevel.ofWire?, if_neg hnone.1, if_neg hnone.2.1,
      if_neg hnone.2.2.1, if_neg hnone.2.2.2]
    rfl

/-- A level is read as the nearest one that fits into a byte. -/
theorem toInt_byteOfInt (n : Int32) : (Int32.ofNat (byteOfInt n).toNat).toInt = byteLevel n := by
  have hnat : n.toNatClampNeg = n.toInt.toNat := rfl
  have hbyte : (byteOfInt n).toNat = min n.toInt.toNat 255 := by
    have hsize : UInt8.size = 256 := rfl
    rw [byteOfInt, hnat]
    exact UInt8.toNat_ofNat_of_lt' (by omega)
  rw [hbyte, Int32.toInt_ofNat_of_lt (by omega), byteLevel]
  omega

/-- What a record says is what reaches the library. -/
theorem delivers_toConfig (r : ConfigRecord) : Delivers r (.ofConfig r.toConfig) where
  echoCancellerEnabled := isSome_whenEnabled _ _
  echoCancellerMobile := apply_getD_whenEnabled EchoCanceller.mobileMode _ _ _
  echoCancellerEnforceHighPass := isSome_whenEnabled _ _
  gainControllerEnabled := isSome_whenEnabled _ _
  adaptiveGainEnabled := isSome_whenEnabled _ _
  inputVolumeControllerEnabled :=
    apply_getD_whenEnabled GainController.inputVolumeController _ _ _
  headroomDb := apply_getD_whenEnabled GainController.headroomDb _ _ _
  maxGainDb := apply_getD_whenEnabled GainController.maxGainDb _ _ _
  fixedGainDb := apply_getD_whenEnabled GainController.fixedGainDb _ _ _
  noiseSuppressionEnabled := isSome_whenEnabled _ _
  noiseLevel := by
    rw [← wire_getD_ofWire?]
    exact apply_getD_whenEnabled (fun noise : NoiseSuppression => noise.level.wire) _ _ _
  highPassEnabled := isSome_whenEnabled _ _
  highPassFullBand := apply_getD_whenEnabled HighPassFilter.fullBand _ _ _
  levelAdjustmentEnabled := isSome_whenEnabled _ _
  preGain := apply_getD_whenEnabled CaptureLevelAdjustment.preGain _ _ _
  postGain := apply_getD_whenEnabled CaptureLevelAdjustment.postGain _ _ _
  micGainEmulationEnabled := by
    unfold FlatConfig.ofConfig ConfigRecord.toConfig CaptureLevelAdjustmentRecord.emulatesMicGain
    cases r.captureLevelAdjustment.enabled with
    | false => rfl
    | true => exact isSome_whenEnabled _ _
  micGainInitialLevel := by
    rw [← toInt_byteOfInt]
    unfold FlatConfig.ofConfig ConfigRecord.toConfig CaptureLevelAdjustmentRecord.emulatesMicGain
    cases r.captureLevelAdjustment.enabled with
    | false => rfl
    | true =>
      exact apply_getD_whenEnabled
        (fun micGain : MicGainEmulation => (Int32.ofNat micGain.initialLevel.toNat).toInt) _ _ _

/-- Whether two records say the same about a component: both disable it, or both enable it with the
same settings. -/
def SameComponent (enabled enabled' : Bool) (sameSettings : Prop) : Prop :=
  enabled = enabled' ∧ (enabled = true → sameSettings)

/-- Two records that say the same about what they enable. -/
structure SameSettings (x y : ConfigRecord) : Prop where
  echoCanceller : SameComponent x.echoCanceller.enabled y.echoCanceller.enabled
    (x.echoCanceller.mobileMode = y.echoCanceller.mobileMode)
  gainController : SameComponent x.gainController.enabled y.gainController.enabled
    (x.gainController = y.gainController)
  noiseSuppression : SameComponent x.noiseSuppression.enabled y.noiseSuppression.enabled
    (noiseNumber x.noiseSuppression.level = noiseNumber y.noiseSuppression.level)
  highPassFilter : SameComponent x.highPassFilter.enabled y.highPassFilter.enabled
    (x.highPassFilter = y.highPassFilter)
  captureLevelAdjustment :
    SameComponent x.captureLevelAdjustment.enabled y.captureLevelAdjustment.enabled
      (x.captureLevelAdjustment.preGain = y.captureLevelAdjustment.preGain ∧
        x.captureLevelAdjustment.postGain = y.captureLevelAdjustment.postGain)
  micGainEmulation :
    SameComponent x.captureLevelAdjustment.emulatesMicGain y.captureLevelAdjustment.emulatesMicGain
      (byteLevel x.captureLevelAdjustment.micGainInitialLevel =
        byteLevel y.captureLevelAdjustment.micGainInitialLevel)

/-- Settings that are read off components with the same flags, or replaced by the same default, are
equal exactly if they are equal whenever they are read. -/
theorem ite_eq_ite_iff_of_same {α : Type} {enabled enabled' : Bool} (hsame : enabled = enabled')
    {a b default : α} :
    ((if enabled then a else default) = if enabled' then b else default) ↔
      (enabled = true → a = b) := by
  subst hsame
  cases enabled <;> simp

/-- Two records that are told apart by nothing that reaches the library say the same. -/
theorem Delivers.sameSettings {x y : ConfigRecord} {flat : FlatConfig} (hx : Delivers x flat)
    (hy : Delivers y flat) : SameSettings x y where
  echoCanceller := by
    have hsame := hx.echoCancellerEnabled.symm.trans hy.echoCancellerEnabled
    exact ⟨hsame,
      (ite_eq_ite_iff_of_same hsame).mp (hx.echoCancellerMobile.symm.trans hy.echoCancellerMobile)⟩
  gainController := by
    have hsame := hx.gainControllerEnabled.symm.trans hy.gainControllerEnabled
    refine ⟨hsame, fun henabled => ?_⟩
    have hinput := (ite_eq_ite_iff_of_same hsame).mp
      (hx.inputVolumeControllerEnabled.symm.trans hy.inputVolumeControllerEnabled) henabled
    have hheadroom := (ite_eq_ite_iff_of_same hsame).mp
      (hx.headroomDb.symm.trans hy.headroomDb) henabled
    have hmax := (ite_eq_ite_iff_of_same hsame).mp (hx.maxGainDb.symm.trans hy.maxGainDb) henabled
    have hfixed := (ite_eq_ite_iff_of_same hsame).mp
      (hx.fixedGainDb.symm.trans hy.fixedGainDb) henabled
    generalize x.gainController = gain at *
    generalize y.gainController = gain' at *
    cases gain
    cases gain'
    simp only [GainControllerRecord.mk.injEq]
    exact ⟨hsame, hinput, hheadroom, hmax, hfixed⟩
  noiseSuppression := by
    have hsame := hx.noiseSuppressionEnabled.symm.trans hy.noiseSuppressionEnabled
    exact ⟨hsame, (ite_eq_ite_iff_of_same hsame).mp (hx.noiseLevel.symm.trans hy.noiseLevel)⟩
  highPassFilter := by
    have hsame := hx.highPassEnabled.symm.trans hy.highPassEnabled
    refine ⟨hsame, fun henabled => ?_⟩
    have hband := (ite_eq_ite_iff_of_same hsame).mp
      (hx.highPassFullBand.symm.trans hy.highPassFullBand) henabled
    generalize x.highPassFilter = filter at *
    generalize y.highPassFilter = filter' at *
    cases filter
    cases filter'
    simp only [HighPassFilterRecord.mk.injEq]
    exact ⟨hsame, hband⟩
  captureLevelAdjustment := by
    have hsame := hx.levelAdjustmentEnabled.symm.trans hy.levelAdjustmentEnabled
    exact ⟨hsame, fun henabled =>
      ⟨(ite_eq_ite_iff_of_same hsame).mp (hx.preGain.symm.trans hy.preGain) henabled,
        (ite_eq_ite_iff_of_same hsame).mp (hx.postGain.symm.trans hy.postGain) henabled⟩⟩
  micGainEmulation := by
    have hsame := hx.micGainEmulationEnabled.symm.trans hy.micGainEmulationEnabled
    exact ⟨hsame,
      (ite_eq_ite_iff_of_same hsame).mp (hx.micGainInitialLevel.symm.trans hy.micGainInitialLevel)⟩

/-- Noise levels with the same number are the same. -/
theorem eq_of_wire_eq {a b : NoiseLevel} (hwire : a.wire = b.wire) : a = b := by
  have hread := congrArg NoiseLevel.ofWire? hwire
  rw [NoiseLevel.ofWire?_wire, NoiseLevel.ofWire?_wire] at hread
  exact Option.some.inj hread

/-- Nothing else than what a record says decides about what reaches the library. -/
theorem Delivers.unique {r : ConfigRecord} {a b : FlatConfig} (ha : Delivers r a)
    (hb : Delivers r b) : a = b := by
  have hnoise := eq_of_wire_eq (ha.noiseLevel.trans hb.noiseLevel.symm)
  have hlevel := Int32.toInt_inj.mp (ha.micGainInitialLevel.trans hb.micGainInitialLevel.symm)
  cases a
  cases b
  simp only [FlatConfig.mk.injEq]
  exact ⟨ha.levelAdjustmentEnabled.trans hb.levelAdjustmentEnabled.symm,
    ha.preGain.trans hb.preGain.symm, ha.postGain.trans hb.postGain.symm,
    ha.micGainEmulationEnabled.trans hb.micGainEmulationEnabled.symm, hlevel,
    ha.highPassEnabled.trans hb.highPassEnabled.symm,
    ha.highPassFullBand.trans hb.highPassFullBand.symm,
    ha.echoCancellerEnabled.trans hb.echoCancellerEnabled.symm,
    ha.echoCancellerMobile.trans hb.echoCancellerMobile.symm,
    ha.echoCancellerEnforceHighPass.trans hb.echoCancellerEnforceHighPass.symm,
    ha.noiseSuppressionEnabled.trans hb.noiseSuppressionEnabled.symm, hnoise,
    ha.gainControllerEnabled.trans hb.gainControllerEnabled.symm,
    ha.inputVolumeControllerEnabled.trans hb.inputVolumeControllerEnabled.symm,
    ha.adaptiveGainEnabled.trans hb.adaptiveGainEnabled.symm,
    ha.headroomDb.trans hb.headroomDb.symm, ha.maxGainDb.trans hb.maxGainDb.symm,
    ha.fixedGainDb.trans hb.fixedGainDb.symm⟩

/-- What a record says can be said of any record that says the same. -/
theorem SameSettings.delivers {x y : ConfigRecord} (hsame : SameSettings x y) {flat : FlatConfig}
    (hx : Delivers x flat) : Delivers y flat := by
  obtain ⟨⟨hecho, hmobile⟩, ⟨hgain, hgains⟩, ⟨hnoise, hlevel⟩, ⟨hpass, hband⟩, ⟨hadjust, hadjusts⟩,
    ⟨hmic, hmicLevel⟩⟩ := hsame
  refine ⟨hx.echoCancellerEnabled.trans hecho, ?_, hx.echoCancellerEnforceHighPass.trans hpass,
    hx.gainControllerEnabled.trans hgain, hx.adaptiveGainEnabled.trans hgain, ?_, ?_, ?_, ?_,
    hx.noiseSuppressionEnabled.trans hnoise, ?_, hx.highPassEnabled.trans hpass, ?_,
    hx.levelAdjustmentEnabled.trans hadjust, ?_, ?_, hx.micGainEmulationEnabled.trans hmic, ?_⟩
  · exact hx.echoCancellerMobile.trans ((ite_eq_ite_iff_of_same hecho).mpr hmobile)
  · exact hx.inputVolumeControllerEnabled.trans
      ((ite_eq_ite_iff_of_same hgain).mpr fun henabled => by rw [hgains henabled])
  · exact hx.headroomDb.trans
      ((ite_eq_ite_iff_of_same hgain).mpr fun henabled => by rw [hgains henabled])
  · exact hx.maxGainDb.trans
      ((ite_eq_ite_iff_of_same hgain).mpr fun henabled => by rw [hgains henabled])
  · exact hx.fixedGainDb.trans
      ((ite_eq_ite_iff_of_same hgain).mpr fun henabled => by rw [hgains henabled])
  · exact hx.noiseLevel.trans ((ite_eq_ite_iff_of_same hnoise).mpr hlevel)
  · exact hx.highPassFullBand.trans
      ((ite_eq_ite_iff_of_same hpass).mpr fun henabled => by rw [hband henabled])
  · exact hx.preGain.trans
      ((ite_eq_ite_iff_of_same hadjust).mpr fun henabled => (hadjusts henabled).1)
  · exact hx.postGain.trans
      ((ite_eq_ite_iff_of_same hadjust).mpr fun henabled => (hadjusts henabled).2)
  · exact hx.micGainInitialLevel.trans ((ite_eq_ite_iff_of_same hmic).mpr hmicLevel)

namespace Variable

/-- A handle that a program refers to is open. -/
theorem Reachable.exists_engine {ε ω : Type} [Engine ε ω] [LawfulEngine ε ω] {h : Handle ε}
    {world : ω} (hreachable : Reachable (some h, world)) : ∃ engine, h.engine = some engine := by
  obtain ⟨⟨v, world₁⟩, ops, ⟨record, place, world₀, stored, hmade⟩, hafter⟩ := hreachable
  have hlive :
      let made := create (ε := ε) record place world₀
      History.after step ops (made.1.1, made.2) = (some h, world) := by
    rw [hmade]
    exact hafter
  exact (live_after hlive).2.1

variable {σ ι : Type} {library : Library σ ι}

/-- Replacing the configuration hands it to the library once, in the first call that is made. -/
theorem log_applyConfig {h : Handle (NativeEngine library)} {e : NativeEngine library}
    (hopen : h.engine = some e) (record : ConfigRecord) (s : Session σ ι) :
    ∃ later, (step (.applyConfig record) (some h, s)).2.2.log =
        s.log ++ .applyConfig e.ref (.ofConfig record.toConfig) :: later ∧
      ∀ call ∈ later, call.config? = none := by
  let call : Call ι := .applyConfig e.ref (.ofConfig record.toConfig)
  rcases hcall : library.call call s with ⟨status, s'⟩
  have hlog : s'.log = s.log ++ [call] := congrArg (fun answer => answer.2.log) hcall.symm
  simp only [step, applyConfig, Handle.applyConfig, hopen, Engine.applyConfig, call, hcall,
    checkStatus]
  by_cases hok : status = Status.ok
  · refine ⟨[.setDelay e.ref record.toConfig.streamDelay.hintMs], ?_, ?_⟩
    · simp only [if_pos hok]
      exact (congrArg (· ++ [Call.setDelay e.ref _]) hlog).trans (List.append_assoc _ _ _)
    · intro call hcall
      rw [List.mem_singleton.mp hcall]
      rfl
  · refine ⟨[], ?_, List.forall_mem_nil _⟩
    simp only [if_neg hok]
    exact hlog

end Variable

end Boundary

/-- Creating a handle for a configuration with channels hands it to the library once, in the first
call that is made. -/
theorem Native.CreationOutcome.log_of_channels {σ ι : Type} {library : Native.Library σ ι}
    {config : Config} {s₀ : Native.Session σ ι}
    {outcome : Except Error (Handle (Native.NativeEngine library)) × Native.Session σ ι}
    (houtcome : Native.CreationOutcome library config s₀ outcome)
    (hchannels : ¬config.LacksChannels) :
    ∃ later, outcome.2.log = s₀.log ++ .create (.ofConfig config) :: later ∧
      ∀ call ∈ later, call.config? = none := by
  cases houtcome with
  | lacking lacks => exact absurd lacks hchannels
  | refused _ _ log => exact ⟨[], log, List.forall_mem_nil _⟩
  | failed _ _ _ log => exact ⟨_, log, by simp [Native.Call.config?]⟩
  | initialised _ _ _ _ log =>
    refine ⟨_, log, ?_⟩
    unfold Native.delayCalls
    split <;> simp [Native.Call.config?]

open Boundary Native in
/-- A record that a program gives to create a handle, or to reconfigure one, is handed to the
library once, and what the library is told is what the record says. Two records are the same to the
library exactly if they say the same about what they enable. -/
theorem settings_reachLibrary {σ ι : Type} (library : Library σ ι) :
    (∀ (record : ConfigRecord) (place : Option Status) (s₀ : Session σ ι),
      (∀ direction, IsStreamCount (record.channels direction)) →
      ∃ flat later, Delivers record flat ∧
        (Variable.create (ε := NativeEngine library) record place s₀).2.log =
          s₀.log ++ .create flat :: later ∧
        ∀ call ∈ later, call.config? = none) ∧
    (∀ (record : ConfigRecord) (h : Handle (NativeEngine library)) (s : Session σ ι),
      Variable.Reachable (some h, s) →
      ∃ e flat later, h.engine = some e ∧ Delivers record flat ∧
        (Variable.step (.applyConfig record) (some h, s)).2.2.log =
          s.log ++ .applyConfig e.ref flat :: later ∧
        ∀ call ∈ later, call.config? = none) ∧
    ∀ (x y : ConfigRecord) (a b : FlatConfig), Delivers x a → Delivers y b →
      (a = b ↔ SameSettings x y) := by
  refine ⟨?_, ?_, ?_⟩
  · intro record place s₀ hcounts
    have hchannels : ¬record.toConfig.LacksChannels :=
      fun hlacks => (lacksChannels_toConfig_iff record).mp hlacks hcounts
    obtain ⟨later, hlog, hlater⟩ :=
      (creationOutcome_create library record.toConfig s₀).log_of_channels hchannels
    rw [Variable.create_eq]
    exact ⟨_, later, delivers_toConfig record, hlog, hlater⟩
  · intro record h s hreachable
    obtain ⟨e, hopen⟩ := hreachable.exists_engine
    obtain ⟨later, hlog, hlater⟩ := Variable.log_applyConfig hopen record s
    exact ⟨e, _, later, hopen, delivers_toConfig record, hlog, hlater⟩
  · intro x y a b hx hy
    constructor
    · rintro rfl
      exact hx.sameSettings hy
    · intro hsame
      exact (hsame.delivers hx).unique hy

open Boundary Native in
/-- A gain that is not a number reaches the library with its bits, a noise level that stands for
none as the moderate one, and the parameters of disabled components as defaults. A second record,
with other parameters of disabled components, another number for no noise level and a channel count
that no stream can have, is the same to the library. -/
theorem settings_reachLibrary_of_disabled :
    let first : ConfigRecord :=
      { ConfigRecord.default with
        gainController := ⟨true, true, Binary.ofBits 0x7FC00123, 1, 2⟩
        echoCanceller := ⟨false, true, 99⟩
        noiseSuppression := ⟨true, 9⟩
        captureLevelAdjustment := ⟨false, 3, 4, true, -3⟩ }
    let second : ConfigRecord :=
      { first with
        echoCanceller := ⟨false, false, -1⟩
        noiseSuppression := ⟨true, -1⟩
        captureChannels := -7 }
    ∃ (h : Handle (NativeEngine (Library.reversing Status.ok))) (s : Session Unit Unit),
      Variable.create first none ⟨(), []⟩ = ((some h, none), s) ∧
      ∃ flat later later', s.log = .create flat :: later ∧
        flat.headroomDb = Binary.ofBits 0x7FC00123 ∧ flat.noiseLevel.wire = 1 ∧
        flat.echoCancellerMobile = false ∧ flat.preGain = 1 ∧
        flat.micGainEmulationEnabled = false ∧ flat.micGainInitialLevel.toInt = 255 ∧
        (Variable.step (.applyConfig second) (some h, s)).2.2.log =
          s.log ++ .applyConfig () flat :: later' := by
  intro first second
  have hcounts (direction : Direction) : IsStreamCount (first.channels direction) := by
    cases direction <;> exact ⟨by decide, by decide⟩
  obtain ⟨h, s, hmade⟩ :
      ∃ (h : Handle (NativeEngine (Library.reversing Status.ok))) (s : Session Unit Unit),
        Variable.create first none ⟨(), []⟩ = ((some h, none), s) := ⟨_, _, rfl⟩
  have hreachable : Variable.Reachable (some h, s) :=
    History.Reachable.of_initial Variable.step ⟨first, none, ⟨(), []⟩, none, hmade⟩
  obtain ⟨hcreated, happlied, hsame⟩ :=
    settings_reachLibrary (Library.reversing Status.ok)
  obtain ⟨flat, later, hflat, hlog, -⟩ := hcreated first none ⟨(), []⟩ hcounts
  obtain ⟨e, flat', later', -, hflat', hlog', -⟩ := happlied second h s hreachable
  have hsettings : SameSettings first second :=
    ⟨⟨rfl, nofun⟩, ⟨rfl, fun _ => rfl⟩, ⟨rfl, fun _ => by decide⟩, ⟨rfl, fun _ => rfl⟩,
      ⟨rfl, fun _ => ⟨rfl, rfl⟩⟩, ⟨rfl, fun _ => rfl⟩⟩
  obtain rfl : flat = flat' := (hsame first second flat flat' hflat hflat').mpr hsettings
  rw [hmade] at hlog
  exact ⟨h, s, hmade, flat, later, later', hlog, hflat.headroomDb, hflat.noiseLevel,
    hflat.echoCancellerMobile, hflat.preGain, hflat.micGainEmulationEnabled,
    hflat.micGainInitialLevel, hlog'⟩

end VoiceProcessing
