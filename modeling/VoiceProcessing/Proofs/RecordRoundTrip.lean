import VoiceProcessing.Boundary.Record

/-!
# Configurations written as records

Reading a record gives back the configuration that was written, to the bit and with every disabled
component still disabled, for all parameters and channel counts. There is one exception: a delay
known in advance that is negative looks like no delay in a record, so it is lost. No record is read
as such a delay, and therefore one pass through reading and writing brings any record to a form that
further passes keep, and that is read as the record itself.
-/

namespace VoiceProcessing.Boundary

/-- What is read off the settings of a component that was written as a flag and parameters. -/
theorem whenEnabled_getD {α β : Type} (read : α → β) (component : Option α) (default : α) :
    whenEnabled component.isSome (read (component.getD default)) = component.map read := by
  cases component <;> rfl

/-- So the settings themselves are read back. -/
theorem whenEnabled_getD_self {α : Type} (component : Option α) (default : α) :
    whenEnabled component.isSome (component.getD default) = component := by
  cases component <;> rfl

/-- A byte is read back. -/
theorem byteOfInt_ofNat (level : UInt8) : byteOfInt (Int32.ofNat level.toNat) = level := by
  have hlevel : level.toNat < 256 := level.toNat_lt
  rw [byteOfInt, Int32.toNatClampNeg_ofNat_of_lt (by omega), Nat.min_eq_left (by omega),
    UInt8.ofNat_toNat]

/-- A channel count is read back. -/
theorem channelsOfInt_ofNat (count : UInt16) :
    channelsOfInt (Int32.ofNat count.toNat) = count := by
  have hcount : count.toNat < 65536 := count.toNat_lt
  have hlimit : (65535 : Int32).toInt = 65535 := rfl
  have hrange : 0 ≤ Int32.ofNat count.toNat ∧ Int32.ofNat count.toNat ≤ 65535 := by
    rw [Int32.le_iff_toInt_le, Int32.le_iff_toInt_le, Int32.toInt_ofNat_of_lt (by omega),
      Int32.toInt_zero, hlimit]
    omega
  rw [channelsOfInt, if_pos hrange, Int32.toNatClampNeg_ofNat_of_lt (by omega), UInt16.ofNat_toNat]

/-- A delay that can be told from none in a record. -/
def Tellable (delay : StreamDelay) : Prop :=
  ∀ ms, delay = .fixed ms → 0 ≤ ms

/-- Exactly such delays are read back. -/
theorem streamDelayOfMs_msOfStreamDelay_iff (delay : StreamDelay) :
    streamDelayOfMs (msOfStreamDelay delay) = delay ↔ Tellable delay := by
  cases delay with
  | agnostic => exact iff_of_true rfl nofun
  | fixed ms =>
    rw [msOfStreamDelay, streamDelayOfMs]
    split
    · next hnegative =>
      exact iff_of_false nofun fun htellable => Int32.not_lt.mpr (htellable ms rfl) hnegative
    · next hnonnegative =>
      apply iff_of_true rfl
      rintro _ ⟨⟩
      exact Int32.not_lt.mp hnonnegative

/-- No other delay is ever read. -/
theorem tellable_streamDelayOfMs (ms : Int32) : Tellable (streamDelayOfMs ms) := by
  intro ms' hfixed
  unfold streamDelayOfMs at hfixed
  split at hfixed
  · cases hfixed
  · next hnonnegative =>
    cases hfixed
    exact Int32.not_lt.mp hnonnegative

/-- An echo canceller with its delay written and read back. -/
def rereadEcho (echo : EchoCanceller) : EchoCanceller :=
  { echo with streamDelay := streamDelayOfMs (msOfStreamDelay echo.streamDelay) }

/-- Such an echo canceller is the same exactly if its delay can be told. -/
theorem rereadEcho_eq_iff (echo : EchoCanceller) :
    rereadEcho echo = echo ↔ Tellable echo.streamDelay := by
  rw [← streamDelayOfMs_msOfStreamDelay_iff]
  obtain ⟨mobileMode, delay⟩ := echo
  simp only [rereadEcho, EchoCanceller.mk.injEq, true_and]

namespace ConfigRecord

/-- Whatever was written as a record is read back, but for the delay. -/
theorem toConfig_ofConfig (c : Config) :
    (ofConfig c).toConfig = { c with echoCanceller := c.echoCanceller.map rereadEcho } := by
  have hmicGain (adjustment : CaptureLevelAdjustment) :
      whenEnabled adjustment.micGainEmulation.isSome
          { initialLevel := byteOfInt (Int32.ofNat
              (adjustment.micGainEmulation.getD {}).initialLevel.toNat) } =
        adjustment.micGainEmulation := by
    simp only [byteOfInt_ofNat]
    exact whenEnabled_getD_self adjustment.micGainEmulation {}
  simp only [toConfig, ofConfig, hmicGain, channelsOfInt_ofNat, NoiseLevel.ofWire?_wire,
    Option.getD_some]
  rw [Config.mk.injEq]
  exact ⟨whenEnabled_getD rereadEcho c.echoCanceller {}, whenEnabled_getD_self c.gainController {},
    whenEnabled_getD_self c.noiseSuppression {}, whenEnabled_getD_self c.highPassFilter {},
    whenEnabled_getD_self c.captureLevelAdjustment {}, rfl, rfl⟩

/-- A configuration is read back exactly if the delay of its echo canceller, if it has one, can be
told. -/
theorem toConfig_ofConfig_eq_iff (c : Config) :
    (ofConfig c).toConfig = c ↔
      ∀ echo, c.echoCanceller = some echo → Tellable echo.streamDelay := by
  rw [toConfig_ofConfig]
  obtain ⟨echo?, gain, noise, highPass, adjustment, capture, render⟩ := c
  cases echo? with
  | none => exact iff_of_true rfl nofun
  | some echo =>
    simp only [Option.map_some, Config.mk.injEq, Option.some.injEq, and_true, forall_eq']
    exact rereadEcho_eq_iff echo

/-- What is read of any record can be written and is read back. -/
theorem toConfig_ofConfig_toConfig (r : ConfigRecord) :
    (ofConfig r.toConfig).toConfig = r.toConfig := by
  rw [toConfig_ofConfig_eq_iff]
  intro echo hecho
  simp only [toConfig, whenEnabled] at hecho
  split at hecho
  · cases hecho
    exact tellable_streamDelayOfMs _
  · cases hecho

end ConfigRecord

/-- A configuration that is written as a record is read back, exactly unless it has an echo
canceller with a fixed delay below zero. Every record is brought to its final form in one pass, and
that form is read as the record is. -/
theorem records_restoreConfigs :
    (∀ c : Config, (ConfigRecord.ofConfig c).toConfig = c ↔
      ∀ echo, c.echoCanceller = some echo → Tellable echo.streamDelay) ∧
    ∀ r : ConfigRecord,
      let normal := ConfigRecord.ofConfig r.toConfig
      ConfigRecord.ofConfig normal.toConfig = normal ∧ normal.toConfig = r.toConfig := by
  constructor
  · exact ConfigRecord.toConfig_ofConfig_eq_iff
  · intro r normal
    have hread : normal.toConfig = r.toConfig := ConfigRecord.toConfig_ofConfig_toConfig r
    exact ⟨congrArg ConfigRecord.ofConfig hread, hread⟩

/-- A gain that is not a number keeps its bits. A record with parameters of disabled components, a
noise level that stands for none, a level beyond a byte and channel counts beyond 16 bits is brought
to its final form in one pass. A fixed delay below zero is lost. -/
theorem records_restoreConfigs_of_outOfRange :
    let gain : GainController := { headroomDb := Binary.ofBits 0xFFC12345 }
    let config : Config := { gainController := some gain, renderChannels := 65535 }
    let delayed : Config := { echoCanceller := some { streamDelay := .fixed (-1) } }
    let record : ConfigRecord :=
      { echoCanceller := ⟨false, true, 77⟩
        gainController := ⟨false, true, 1, 2, 3⟩
        noiseSuppression := ⟨true, 9⟩
        highPassFilter := ⟨true, false⟩
        captureLevelAdjustment := ⟨true, 3, 4, true, 300⟩
        captureChannels := 70000
        renderChannels := -1 }
    let normal : ConfigRecord :=
      { echoCanceller := ⟨false, false, -1⟩
        gainController := ⟨false, false, 5, 50, 0⟩
        noiseSuppression := ⟨true, 1⟩
        highPassFilter := ⟨true, false⟩
        captureLevelAdjustment := ⟨true, 3, 4, true, 255⟩
        captureChannels := 0
        renderChannels := 0 }
    (ConfigRecord.ofConfig config).toConfig = config ∧
      (ConfigRecord.ofConfig delayed).toConfig ≠ delayed ∧
      ConfigRecord.ofConfig record.toConfig = normal ∧
      ConfigRecord.ofConfig normal.toConfig = normal ∧ normal.toConfig = record.toConfig := by
  intro gain config delayed record normal
  obtain ⟨hconfigs, hrecords⟩ := records_restoreConfigs
  have hnormal : ConfigRecord.ofConfig record.toConfig = normal := rfl
  have hfinal := hrecords record
  rw [hnormal] at hfinal
  refine ⟨(hconfigs config).mpr nofun, ?_, hnormal, hfinal⟩
  intro hkept
  exact absurd ((hconfigs delayed).mp hkept _ rfl (-1) rfl) (by decide)

end VoiceProcessing.Boundary
