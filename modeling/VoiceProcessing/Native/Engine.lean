import VoiceProcessing.Engine.Basic
import VoiceProcessing.Native.Library

/-!
# The native engine

An engine that hands every operation to an instance of the native library. It checks the shape of
frames itself, since the library would read and write beyond buffers that are too short, and turns
each status that is not success into an error. An instance that cannot be initialised is destroyed
at once.
-/

namespace VoiceProcessing.Native

variable {σ ι : Type}

/-- An engine of the given library: an instance and the formats it was made for. -/
structure NativeEngine (library : Library σ ι) where
  ref : ι
  capture : WireFormat
  render : WireFormat

/-- Every status other than success is an error. -/
def checkStatus (status : Status) : Except EngineError Unit :=
  if status = Status.ok then .ok () else .error ⟨status⟩

namespace NativeEngine

variable {library : Library σ ι}

/-- The format of the stream in a direction. -/
def format (e : NativeEngine library) : Direction → WireFormat
  | .capture => e.capture
  | .render => e.render

/-- Channel buffers may be lent to the library when there is one for each channel and each holds one
frame. -/
def checkChannels (format : WireFormat) (channels : List (List Binary32)) :
    Except EngineError Unit :=
  if channels.length ≠ format.channelCount then .error ⟨Status.badChannelCount⟩
  else if channels.any (·.length ≠ samplesPerFrame) then .error ⟨Status.badDataLength⟩
  else .ok ()

/-- Interleaved samples may be lent to the library when they are one frame of all channels. -/
def checkSamples (format : WireFormat) (samples : List Int16) : Except EngineError Unit :=
  if samples.length ≠ format.channelCount * samplesPerFrame then .error ⟨Status.badDataLength⟩
  else .ok ()

/-- Make an instance and initialise it for the formats. -/
def create (config : Config) (capture render : StreamFormat) (s : Session σ ι) :
    Except EngineError (NativeEngine library) × Session σ ι :=
  match library.call (.create (FlatConfig.ofConfig config)) s with
  | (none, s) => (.error ⟨Status.internal⟩, s)
  | (some ref, s) =>
    let capture := WireFormat.ofStream capture
    let render := WireFormat.ofStream render
    let (status, s) := library.call (.reset ref capture render) s
    match checkStatus status with
    | .ok () => (.ok { ref, capture, render }, s)
    | .error e => (.error e, (library.call (.destroy ref) s).2)

/-- Lend channel buffers to the library. -/
def processFloat (direction : Direction) (channels : List (List Binary32))
    (e : NativeEngine library) (s : Session σ ι) :
    Except EngineError Unit × List (List Binary32) × NativeEngine library × Session σ ι :=
  let format := e.format direction
  match checkChannels format channels with
  | .error err => (.error err, channels, e, s)
  | .ok () =>
    let ((status, channels), s) :=
      library.call (.processFloat e.ref direction channels format format) s
    (checkStatus status, channels.val, e, s)

/-- Lend interleaved samples to the library. -/
def processPcm (direction : Direction) (samples : List Int16)
    (e : NativeEngine library) (s : Session σ ι) :
    Except EngineError Unit × List Int16 × NativeEngine library × Session σ ι :=
  let format := e.format direction
  match checkSamples format samples with
  | .error err => (.error err, samples, e, s)
  | .ok () =>
    let length := Int32.ofNat samples.length
    let ((status, samples), s) :=
      library.call (.processPcm e.ref direction samples length format format length) s
    (checkStatus status, samples.val, e, s)

/-- The statistics of the instance; if it cannot tell, there are none. -/
def statistics (e : NativeEngine library) (s : Session σ ι) :
    EngineStats × NativeEngine library × Session σ ι :=
  let ((status, stats), s) := library.call (.statistics e.ref) s
  (if status = Status.ok then stats.toEngineStats else {}, e, s)

/-- Pass a hint on. The library may object to a value, but keeps one that it can use. -/
def hint (hint : Hint) (e : NativeEngine library) (s : Session σ ι) :
    NativeEngine library × Session σ ι :=
  match hint with
  | .delay ms => (e, (library.call (.setDelay e.ref ms) s).2)
  | .analogLevel level => (e, (library.call (.setAnalogLevel e.ref level) s).2)
  | .outputMuted muted => (e, (library.call (.setOutputMuted e.ref muted) s).2)
  | .keyPressed pressed => (e, (library.call (.setKeyPressed e.ref pressed) s).2)

instance : Engine (NativeEngine library) (Session σ ι) where
  create := create
  reset e s :=
    let (status, s) := library.call (.reset e.ref e.capture e.render) s
    (checkStatus status, e, s)
  applyConfig config e s :=
    let (status, s) := library.call (.applyConfig e.ref (FlatConfig.ofConfig config)) s
    (checkStatus status, e, s)
  processFloat := processFloat
  processPcm := processPcm
  statistics := statistics
  hint := hint
  delayMs e s :=
    let (ms, s) := library.call (.delay e.ref) s
    (ms, e, s)
  recommendedLevel e s :=
    let (level, s) := library.call (.recommendedLevel e.ref) s
    (level, e, s)
  destroy e s := (library.call (.destroy e.ref) s).2

instance : LawfulEngine (NativeEngine library) (Session σ ι) where
  lengths_processFloat direction channels e s := by
    simp only [Engine.processFloat, processFloat]
    cases checkChannels (e.format direction) channels with
    | error err => rfl
    | ok _ =>
      let format := e.format direction
      exact (library.call (.processFloat e.ref direction channels format format) s).1.2.property
  length_processPcm direction samples e s := by
    simp only [Engine.processPcm, processPcm]
    cases checkSamples (e.format direction) samples with
    | error err => rfl
    | ok _ =>
      let format := e.format direction
      let length := Int32.ofNat samples.length
      exact (library.call
        (.processPcm e.ref direction samples length format format length) s).1.2.property

end NativeEngine

end VoiceProcessing.Native
