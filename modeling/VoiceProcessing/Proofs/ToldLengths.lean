import VoiceProcessing.Proofs.EngineGeometry
import VoiceProcessing.Proofs.FrontEnds

/-!
# What the native library is told of buffers

The library cannot see how long the buffers are that it is lent; it relies on what it is told. It is
told the truth: as many channels as there are, and as many samples, in numbers of 32 bits in which
there is room for both. The engine makes sure of it by itself, whatever frames it is given, as long
as its formats are those of streams.
-/

namespace VoiceProcessing.Native

variable {σ ι : Type} {library : Library σ ι}

/-- What a call tells of the buffers that it lends is true: the number of channels, which have a
frame of samples each, and for interleaved samples also their number. -/
def Call.TellsLengths : Call ι → Prop
  | .processFloat _ _ source input output =>
    output = input ∧ input.channels.toInt = source.length ∧
      ∀ channel ∈ source, channel.length = 480
  | .processPcm _ _ source sourceLength input output destinationLength =>
    output = input ∧ sourceLength.toInt = source.length ∧
      destinationLength.toInt = source.length ∧ 480 * input.channels.toInt = source.length
  | _ => True

/-- The calls made since a session all tell lengths as they are. -/
def ToldSince (before s : Session σ ι) : Prop :=
  ∃ calls, s.log = before.log ++ calls ∧ ∀ call ∈ calls, call.TellsLengths

/-- One more call of that kind may be made. -/
theorem ToldSince.extend {before s s' : Session σ ι} (hsince : ToldSince before s) {call : Call ι}
    (hlog : s'.log = s.log ++ [call]) (htells : call.TellsLengths) : ToldSince before s' := by
  obtain ⟨calls, hbefore, hcalls⟩ := hsince
  refine ⟨calls ++ [call], ?_, ?_⟩
  · rw [hlog, hbefore, List.append_assoc]
  · intro other hother
    rcases List.mem_append.mp hother with hearlier | hlast
    · exact hcalls other hearlier
    · rw [List.mem_singleton.mp hlast]
      exact htells

namespace NativeEngine

/-- The formats of an engine are those of streams, in the form that the library takes. -/
def Wired (e : NativeEngine library) : Prop :=
  ∀ direction, ∃ stream, e.format direction = .ofStream stream

/-- Channels that pass the check of the engine are lent with their true number and length. -/
theorem tellsLengths_of_checkChannels {stream : StreamFormat} {channels : List (List Binary32)}
    (hchecked : checkChannels (.ofStream stream) channels = .ok ()) (ref : ι)
    (direction : Direction) :
    (Call.processFloat ref direction channels (.ofStream stream)
      (.ofStream stream)).TellsLengths := by
  unfold checkChannels at hchecked
  rw [WireFormat.channelCount_ofStream] at hchecked
  split at hchecked
  · cases hchecked
  · next hcount =>
    split at hchecked
    · cases hchecked
    · next hfull =>
      have hlengths : ∀ channel ∈ channels, channel.length = samplesPerFrame := by
        simpa using hfull
      refine ⟨rfl, ?_, hlengths⟩
      rw [(WireFormat.toInt_ofStream stream).2, Decidable.of_not_not hcount]

/-- Samples that pass the check of the engine are lent with their true number. -/
theorem tellsLengths_of_checkSamples {stream : StreamFormat} {samples : List Int16}
    (hchecked : checkSamples (.ofStream stream) samples = .ok ()) (ref : ι)
    (direction : Direction) :
    (Call.processPcm ref direction samples (Int32.ofNat samples.length) (.ofStream stream)
      (.ofStream stream) (Int32.ofNat samples.length)).TellsLengths := by
  unfold checkSamples at hchecked
  rw [WireFormat.channelCount_ofStream] at hchecked
  split at hchecked
  · cases hchecked
  · next hlength =>
    have hsamples : samples.length = stream.frameSamples := Decidable.of_not_not hlength
    have hcount : (stream.frameSamples : Int) = 480 * stream.channelCount := by
      rw [StreamFormat.frameSamples, Int.natCast_mul, Int.mul_comm]
      rfl
    have htold : (Int32.ofNat samples.length).toInt = samples.length := by
      rw [hsamples, toInt_frameSamples, hcount]
    refine ⟨rfl, htold, htold, ?_⟩
    rw [(WireFormat.toInt_ofStream stream).2, hsamples, hcount]

/-- Whatever an engine is asked, the library is told lengths as they are. -/
theorem toldSince_step {before : Session σ ι} {e : NativeEngine library} (hwired : e.Wired)
    {s : Session σ ι} (hsince : ToldSince before s) (op : Engine.Op) :
    ToldSince before (Engine.step op (e, s)).2.2 := by
  cases op with
  | processFloat direction channels =>
    obtain ⟨stream, hformat⟩ := hwired direction
    simp only [Engine.step, Engine.processFloat, processFloat]
    cases hchecked : checkChannels (e.format direction) channels with
    | error err => exact hsince
    | ok _ =>
      rw [hformat] at hchecked ⊢
      exact hsince.extend rfl (tellsLengths_of_checkChannels hchecked e.ref direction)
  | processPcm direction samples =>
    obtain ⟨stream, hformat⟩ := hwired direction
    simp only [Engine.step, Engine.processPcm, processPcm]
    cases hchecked : checkSamples (e.format direction) samples with
    | error err => exact hsince
    | ok _ =>
      rw [hformat] at hchecked ⊢
      exact hsince.extend rfl (tellsLengths_of_checkSamples hchecked e.ref direction)
  | hint hint => cases hint <;> exact hsince.extend rfl trivial
  | _ => exact hsince.extend rfl trivial

/-- Creating an engine tells no lengths, and its formats are those of streams. -/
theorem toldSince_create {before s : Session σ ι} (hsince : ToldSince before s) (config : Config)
    (capture render : StreamFormat) :
    let made := Engine.create (ε := NativeEngine library) config capture render s
    ToldSince before made.2 ∧ ∀ e, made.1 = .ok e → e.Wired ∧ ToldSince before made.2 := by
  intro made
  cases hanswer : (library.answer (.create (.ofConfig config)) s.state).1 with
  | none =>
    obtain ⟨s', hcreate, hlog⟩ := create_of_none hanswer capture render
    have hmade : made = _ := hcreate
    rw [hmade]
    exact ⟨hsince.extend hlog trivial, nofun⟩
  | some ref =>
    let granted := (library.call (.create (.ofConfig config)) s).2
    let reset : Call ι := .reset ref (.ofStream capture) (.ofStream render)
    have hgranted : ToldSince before granted := hsince.extend rfl trivial
    have hinitialised : ToldSince before (library.call reset granted).2 :=
      hgranted.extend rfl trivial
    have hmade : made = _ := create_of_some hanswer capture render
    rw [hmade]
    split
    · refine ⟨hinitialised, ?_⟩
      rintro _ ⟨⟩
      refine ⟨?_, hinitialised⟩
      intro direction
      cases direction with
      | capture => exact ⟨capture, rfl⟩
      | render => exact ⟨render, rfl⟩
    · exact ⟨hinitialised.extend rfl trivial, nofun⟩

end NativeEngine

/-- Whatever is done to a handle, from its creation on, the library is told lengths as they are. -/
theorem toldSince_handle (config : Config) (ops : List Handle.Op) (s : Session σ ι) :
    ToldSince s (Handle.worldDuring (NativeEngine library) config ops s) := by
  apply Handle.worldDuring_invariant
    (P := fun t : NativeEngine library × Session σ ι => t.1.Wired ∧ ToldSince s t.2)
  · rintro t ⟨-, hsince⟩
    exact hsince
  · intro config capture render t hsince
    exact NativeEngine.toldSince_create hsince config capture render
  · rintro op ⟨e, t⟩ ⟨hwired, hsince⟩
    refine ⟨?_, NativeEngine.toldSince_step hwired hsince op⟩
    rw [(NativeEngine.step_uses op e t).1]
    exact hwired
  · rintro ⟨e, t⟩ ⟨-, hsince⟩
    exact hsince.extend rfl trivial
  · exact ⟨[], (List.append_nil _).symm, List.forall_mem_nil _⟩

/-- So it is whatever is done to a processor. -/
theorem toldSince_processor (config : Config) (ops : List Processor.Op) (s : Session σ ι) :
    ToldSince s (Processor.worldDuring (NativeEngine library) config ops s) := by
  rw [Processor.worldDuring_eq]
  exact toldSince_handle config _ s

/-- So it is whatever is done to a handle variable. -/
theorem toldSince_variable (record : Boundary.ConfigRecord) (place : Option Status)
    (ops : List Boundary.Variable.Op) (s : Session σ ι) :
    ToldSince s (Boundary.Variable.worldDuring (NativeEngine library) record place ops s) := by
  rw [Boundary.Variable.worldDuring_eq]
  exact toldSince_handle record.toConfig _ s

end VoiceProcessing.Native
