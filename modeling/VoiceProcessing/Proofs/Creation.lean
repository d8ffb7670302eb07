import VoiceProcessing.Proofs.StatusCodes

/-!
# What the creation of a handle comes to

A handle on the native engine is created by at most three calls on the library: one that asks for an
instance, one that initialises it, and one that forwards a delay known in advance. The answers to
the first two decide how far this goes and what becomes of the instance. Nothing is asked at all for
a configuration with no channels in one of the directions, and a record from beyond the boundary
with a channel count that no stream can have becomes such a configuration.

The library may answer anything.
-/

namespace VoiceProcessing

/-- A configuration that asks for a stream without channels. -/
def Config.LacksChannels (c : Config) : Prop :=
  c.captureChannels = 0 ∨ c.renderChannels = 0

namespace Native

variable {σ ι : Type} {library : Library σ ι} {config : Config} {s₀ : Session σ ι} {ref : ι}

/-- The stream format that a configuration asks for in a direction, as the library is told. -/
def wireFormat (config : Config) (direction : Direction) : WireFormat :=
  ⟨48000, Int32.ofNat (config.channelCount direction)⟩

/-- The call that initialises an instance for the streams of a configuration. -/
abbrev initialisation (config : Config) (ref : ι) : Call ι :=
  .reset ref (wireFormat config .capture) (wireFormat config .render)

/-- The status with which the library initialises an instance that it has just granted. -/
def initialStatus (library : Library σ ι) (config : Config) (s₀ : Session σ ι) (ref : ι) : Status :=
  (library.call (initialisation config ref) (library.call (.create (.ofConfig config)) s₀).2).1

/-- The calls that tell an instance the delay of the echo canceller: one, if there is an echo
canceller and its delay is known in advance, and otherwise none. -/
def delayCalls (config : Config) (ref : ι) : List (Call ι) :=
  match config.echoCanceller with
  | some ⟨_, .fixed ms⟩ => [.setDelay ref ms]
  | _ => []

/-- A handle as it should come out of its creation, on the given instance. -/
structure OpenFor (config : Config) (ref : ι) (h : Handle (NativeEngine library)) : Prop where
  engine : ∃ e, h.engine = some e ∧ e.ref = ref ∧
    ∀ direction, e.format direction = wireFormat config direction
  format (direction : Direction) :
    (h.format direction).channelCount = config.channelCount direction
  statistics : h.statistics = {}
  streamDelay : h.streamDelay =
    match config.echoCanceller with
    | some canceller => canceller.streamDelay
    | none => .agnostic

/-- The ways in which the creation of a handle can go, by the answers of the library: the result and
the session after it, with the calls made. -/
inductive CreationOutcome (library : Library σ ι) (config : Config) (s₀ : Session σ ι) :
    Except Error (Handle (NativeEngine library)) × Session σ ι → Prop
  /-- Without channels nothing is asked. -/
  | lacking (lacks : config.LacksChannels) :
    CreationOutcome library config s₀
      (.error (.invalidChannels config.captureChannels config.renderChannels), s₀)
  /-- No instance is granted. -/
  | refused {s : Session σ ι} (channels : ¬config.LacksChannels)
    (refused : (library.answer (.create (.ofConfig config)) s₀.state).1 = none)
    (log : s.log = s₀.log ++ [.create (.ofConfig config)]) :
    CreationOutcome library config s₀ (.error (.create (-2)), s)
  /-- The instance granted cannot be initialised and is destroyed. -/
  | failed {ref : ι} {s : Session σ ι} (channels : ¬config.LacksChannels)
    (granted : (library.answer (.create (.ofConfig config)) s₀.state).1 = some ref)
    (failed : initialStatus library config s₀ ref ≠ 0)
    (log : s.log = s₀.log ++
      [.create (.ofConfig config), initialisation config ref, .destroy ref]) :
    CreationOutcome library config s₀
      (.error (.create (initialStatus library config s₀ ref)), s)
  /-- The instance granted is initialised, told a delay known in advance, and kept. -/
  | initialised {ref : ι} {h : Handle (NativeEngine library)} {s : Session σ ι}
    (channels : ¬config.LacksChannels)
    (granted : (library.answer (.create (.ofConfig config)) s₀.state).1 = some ref)
    (initialised : initialStatus library config s₀ ref = 0) (opened : OpenFor config ref h)
    (log : s.log = s₀.log ++
      .create (.ofConfig config) :: initialisation config ref :: delayCalls config ref) :
    CreationOutcome library config s₀ (.ok h, s)

/-- The rate and the channel count of the format that the library is told. -/
theorem toInt_wireFormat (config : Config) (direction : Direction) :
    (wireFormat config direction).sampleRateHz.toInt = 48000 ∧
      (wireFormat config direction).channels.toInt = config.channelCount direction := by
  refine ⟨rfl, Int32.toInt_ofNat_of_lt ?_⟩
  have hlimit : config.channelCount direction < 65536 := by
    cases direction with
    | capture => exact config.captureChannels.toNat_lt
    | render => exact config.renderChannels.toNat_lt
  omega

/-- Forwarding the delay of a configuration leaves an engine as it was and makes the calls that tell
its instance. -/
theorem after_forwarded (config : Config) (e : NativeEngine library) (s : Session σ ι) :
    (History.after Engine.step (Handle.forwarded config.streamDelay) (e, s)).1 = e ∧
      (History.after Engine.step (Handle.forwarded config.streamDelay) (e, s)).2.log =
        s.log ++ delayCalls config e.ref := by
  unfold Config.streamDelay delayCalls
  rcases config.echoCanceller with _ | ⟨_, _ | ms⟩
  · exact ⟨rfl, (List.append_nil _).symm⟩
  · exact ⟨rfl, (List.append_nil _).symm⟩
  · exact ⟨rfl, rfl⟩

/-- The handle on an instance initialised for the streams of a configuration is as it should be. -/
theorem openFor_opened (hcapture : config.captureChannels ≠ 0) (hrender : config.renderChannels ≠ 0)
    (ref : ι) :
    OpenFor config ref (Handle.opened config ⟨_, hcapture⟩ ⟨_, hrender⟩
      (⟨ref, .ofStream ⟨_, hcapture⟩, .ofStream ⟨_, hrender⟩⟩ : NativeEngine library)) := by
  refine ⟨⟨_, rfl, rfl, ?_⟩, ?_, rfl, rfl⟩
  · intro direction
    cases direction <;> rfl
  · intro direction
    cases direction <;> rfl

section Channels

variable (hchannels : ¬config.LacksChannels)
include hchannels

/-- If no instance is granted, that is all. -/
theorem creationOutcome_of_refused
    (hrefused : (library.answer (.create (.ofConfig config)) s₀.state).1 = none) :
    CreationOutcome library config s₀ (Handle.create config s₀) := by
  obtain ⟨hcapture, hrender⟩ := not_or.mp hchannels
  obtain ⟨s, hmade, hlog⟩ := NativeEngine.create_of_none hrefused ⟨_, hcapture⟩ ⟨_, hrender⟩
  rw [Handle.create_of_ne_zero hcapture hrender, hmade]
  exact .refused hchannels hrefused hlog

/-- If an instance is granted, it is kept or destroyed by the status of its initialisation. -/
theorem creationOutcome_of_granted
    (hgranted : (library.answer (.create (.ofConfig config)) s₀.state).1 = some ref) :
    CreationOutcome library config s₀ (Handle.create config s₀) := by
  obtain ⟨hcapture, hrender⟩ := not_or.mp hchannels
  have hmade := NativeEngine.create_of_some hgranted ⟨_, hcapture⟩ ⟨_, hrender⟩
  let asked := library.call (.create (.ofConfig config)) s₀
  let initialised := library.call (initialisation config ref) asked.2
  have hlog : initialised.2.log =
      s₀.log ++ [.create (.ofConfig config), initialisation config ref] :=
    List.append_assoc _ _ _
  by_cases hstatus : initialStatus library config s₀ ref = 0
  · rw [Handle.create_of_ne_zero hcapture hrender, hmade.trans (if_pos hstatus)]
    refine .initialised hchannels hgranted hstatus ?_ ?_
    · rw [(after_forwarded config _ _).1]
      exact openFor_opened hcapture hrender ref
    · refine (after_forwarded config _ initialised.2).2.trans ?_
      rw [hlog, List.append_assoc]
      rfl
  · rw [Handle.create_of_ne_zero hcapture hrender, hmade.trans (if_neg hstatus)]
    refine .failed hchannels hgranted hstatus ?_
    exact (congrArg (· ++ [Call.destroy ref]) hlog).trans (List.append_assoc _ _ _)

end Channels

/-- The creation of a handle goes in one of these ways, for every configuration. -/
theorem creationOutcome_create (library : Library σ ι) (config : Config) (s₀ : Session σ ι) :
    CreationOutcome library config s₀ (Handle.create config s₀) := by
  by_cases hlacks : config.LacksChannels
  · rw [Handle.create_of_zero hlacks]
    exact .lacking hlacks
  · cases hanswer : (library.answer (.create (.ofConfig config)) s₀.state).1 with
    | none => exact creationOutcome_of_refused hlacks hanswer
    | some ref => exact creationOutcome_of_granted hlacks hanswer

/-- Channel counts are refused exactly if there are none. -/
theorem CreationOutcome.invalid_iff {outcome : Except Error (Handle (NativeEngine library)) × _}
    (houtcome : CreationOutcome library config s₀ outcome) :
    (∃ capture render, outcome.1 = .error (.invalidChannels capture render)) ↔
      config.LacksChannels := by
  cases houtcome with
  | lacking lacks => exact iff_of_true ⟨_, _, rfl⟩ lacks
  | refused channels | failed channels | initialised channels =>
    exact iff_of_false (by rintro ⟨_, _, ⟨⟩⟩) channels

/-- No call is made exactly if there are no channels. -/
theorem CreationOutcome.log_eq_iff {outcome : Except Error (Handle (NativeEngine library)) × _}
    (houtcome : CreationOutcome library config s₀ outcome) :
    outcome.2.log = s₀.log ↔ config.LacksChannels := by
  have hmade {s : Session σ ι} {call : Call ι} {calls : List (Call ι)}
      (hlog : s.log = s₀.log ++ call :: calls) : s.log ≠ s₀.log := by
    intro hsame
    rw [hsame] at hlog
    exact List.cons_ne_nil _ _ (List.self_eq_append_right.mp hlog)
  cases houtcome with
  | lacking lacks => exact iff_of_true rfl lacks
  | refused channels _ log | failed channels _ _ log | initialised channels _ _ _ log =>
    exact iff_of_false (hmade log) channels

end Native

namespace Boundary

open Native

/-- A record asks for channels in both directions if its counts are numbers that a stream can
have. -/
theorem lacksChannels_toConfig_iff (record : ConfigRecord) :
    record.toConfig.LacksChannels ↔ ¬∀ direction, IsStreamCount (record.channels direction) := by
  rw [← Variable.channels_ne_zero_iff, Decidable.not_and_iff_not_or_not, Decidable.not_not,
    Decidable.not_not]
  rfl

/-- A variable refers to the handle created for its record, if any, and the status of the creation
is stored. -/
theorem Variable.create_eq {ε ω : Type} [Engine ε ω] (record : ConfigRecord)
    (place : Option Status) (world : ω) :
    Variable.create (ε := ε) record place world =
      (((Handle.create record.toConfig world).1.toOption,
        place.map fun _ =>
          statusOf ((Handle.create (ε := ε) record.toConfig world).1.map fun _ => ())),
        (Handle.create (ε := ε) record.toConfig world).2) := by
  rcases hcreate : Handle.create (ε := ε) record.toConfig world with ⟨result, world'⟩
  cases result with
  | error e => exact create_of_error hcreate place
  | ok h => exact create_of_ok hcreate place

end Boundary

open Boundary Native in
/-- A handle is created as the answers of the library say, for every configuration and whatever the
answers. So is a handle variable, for a record with channel counts that streams can have, which are
then those of the configuration; for any other record there is no handle and no call. -/
theorem creation_followsAnswers {σ ι : Type} (library : Library σ ι) (s₀ : Session σ ι) :
    (∀ config : Config,
      let made := Handle.create (ε := NativeEngine library) config s₀
      CreationOutcome library config s₀ made ∧
      ((∃ capture render, made.1 = .error (.invalidChannels capture render)) ↔
        config.LacksChannels) ∧
      (made.2.log = s₀.log ↔ config.LacksChannels) ∧
      ∀ direction, (wireFormat config direction).sampleRateHz.toInt = 48000 ∧
        (wireFormat config direction).channels.toInt = config.channelCount direction) ∧
    ∀ (record : ConfigRecord) (place : Option Status),
      let made := Variable.create (ε := NativeEngine library) record place s₀
      ((¬∀ direction, IsStreamCount (record.channels direction)) →
        made = ((none, place.map fun _ => -4), s₀)) ∧
      ((∀ direction, IsStreamCount (record.channels direction)) →
        ¬record.toConfig.LacksChannels ∧
        (∀ direction,
          (record.toConfig.channelCount direction : Int) = (record.channels direction).toInt) ∧
        ∃ result s, CreationOutcome library record.toConfig s₀ (result, s) ∧
          made = ((result.toOption, place.map fun _ => statusOf (result.map fun _ => ())), s)) := by
  constructor
  · intro config made
    have houtcome := creationOutcome_create library config s₀
    exact ⟨houtcome, houtcome.invalid_iff, houtcome.log_eq_iff, toInt_wireFormat config⟩
  · intro record place made
    constructor
    · intro hwrong
      have hlacks := (lacksChannels_toConfig_iff record).mpr hwrong
      exact Variable.create_of_error (Handle.create_of_zero hlacks s₀) place
    · intro hcounts
      refine ⟨?_, fun direction => channelCount_toConfig (hcounts direction), _, _,
        creationOutcome_create library record.toConfig s₀, Variable.create_eq record place s₀⟩
      intro hlacks
      exact (lacksChannels_toConfig_iff record).mp hlacks hcounts

open Boundary Native in
/-- A stereo handle with a delay known in advance is made in three calls. A record that asks for
65537 channels, which is one more than 16 bits can hold, gets no handle and no call. -/
theorem creation_followsAnswers_of_wide :
    let library : Library Unit Unit := Library.reversing Status.ok
    let config : Config :=
      { echoCanceller := some { streamDelay := .fixed 40 }, captureChannels := 2 }
    (Handle.create (ε := NativeEngine library) config ⟨(), []⟩).2.log =
        [.create (.ofConfig config), .reset () ⟨48000, 2⟩ ⟨48000, 1⟩, .setDelay () 40] ∧
      Variable.create (ε := NativeEngine library)
          { ConfigRecord.default with renderChannels := 65537 } (some 7) ⟨(), []⟩ =
        ((none, some (-4)), ⟨(), []⟩) := by
  intro library config
  constructor
  · have houtcome := ((creation_followsAnswers library ⟨(), []⟩).1 config).1
    have hchannels : ¬config.LacksChannels := not_or.mpr ⟨by decide, by decide⟩
    generalize Handle.create (ε := NativeEngine library) config ⟨(), []⟩ = made at houtcome ⊢
    cases houtcome with
    | lacking lacks => exact absurd lacks hchannels
    | refused _ refused => cases refused
    | failed _ _ failed => exact absurd rfl failed
    | initialised _ _ _ _ log => exact log
  · have hwrong : ¬∀ direction, IsStreamCount
        (({ ConfigRecord.default with renderChannels := 65537 } : ConfigRecord).channels
          direction) := by
      intro hcounts
      exact absurd (hcounts .render).2 (by decide)
    exact ((creation_followsAnswers library ⟨(), []⟩).2 _ (some 7)).1 hwrong

end VoiceProcessing
