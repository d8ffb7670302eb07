import VoiceProcessing.Configuration
import VoiceProcessing.Frame
import VoiceProcessing.Statistics

/-!
# Engines

An engine does the actual processing of audio. The class `Engine` lists what the rest of the library
relies on: an engine of type `ε` is used in a world of type `ω`, which every call may read and
change. The world of an engine that keeps everything in its own state is trivial; that of an
engine behind a foreign interface is the state of the foreign library.

A frame of numbers reaches an engine as one buffer for each channel and a frame of 16-bit samples
interleaved. Both are processed in place: a call leaves buffers behind whether it succeeds or not.
-/

namespace VoiceProcessing

/-- What a host tells an engine about the circumstances of a frame. -/
inductive Hint where
  /-- The delay between the render and the capture path in milliseconds. -/
  | delay (ms : Int32)
  /-- The level of the analog input. -/
  | analogLevel (level : Int32)
  /-- Whether the capture output will be muted. -/
  | outputMuted (muted : Bool)
  /-- Whether a key is being pressed. -/
  | keyPressed (pressed : Bool)
  deriving DecidableEq

/-- The operations of an engine of type `ε` used in a world of type `ω`. -/
class Engine (ε : Type) (ω : outParam Type) where
  /-- Make an engine for a configuration and the capture and render formats. -/
  create (config : Config) (capture render : StreamFormat) : ω → Except EngineError ε × ω
  /-- Forget everything learned from frames, keeping configuration, formats and hints. -/
  reset : ε → ω → Except EngineError Unit × ε × ω
  /-- Replace the configuration. -/
  applyConfig (config : Config) : ε → ω → Except EngineError Unit × ε × ω
  /-- Process a frame of numbers, one buffer for each channel. -/
  processFloat (direction : Direction) (channels : List (List Binary32)) :
    ε → ω → Except EngineError Unit × List (List Binary32) × ε × ω
  /-- Process an interleaved frame of 16-bit samples. -/
  processPcm (direction : Direction) (samples : List Int16) :
    ε → ω → Except EngineError Unit × List Int16 × ε × ω
  /-- What the engine has to report. -/
  statistics : ε → ω → EngineStats × ε × ω
  /-- Take note of a hint. -/
  hint (hint : Hint) : ε → ω → ε × ω
  /-- The delay hint in effect. -/
  delayMs : ε → ω → Int32 × ε × ω
  /-- The level of the analog input that the engine recommends. -/
  recommendedLevel : ε → ω → Int32 × ε × ω
  /-- Give up the engine. -/
  destroy : ε → ω → ω

/-- Engines process in place: a frame call may change samples, but neither the number of buffers nor
their lengths. -/
class LawfulEngine (ε : Type) (ω : outParam Type) [Engine ε ω] : Prop where
  lengths_processFloat (direction : Direction) (channels : List (List Binary32)) (engine : ε)
    (world : ω) :
    (Engine.processFloat direction channels engine world).2.1.map List.length =
      channels.map List.length
  length_processPcm (direction : Direction) (samples : List Int16) (engine : ε) (world : ω) :
    (Engine.processPcm direction samples engine world).2.1.length = samples.length

namespace Engine

/-- The calls that can be made on an engine between its creation and its end. -/
inductive Op where
  | reset
  | applyConfig (config : Config)
  | processFloat (direction : Direction) (channels : List (List Binary32))
  | processPcm (direction : Direction) (samples : List Int16)
  | statistics
  | hint (hint : Hint)
  | delayMs
  | recommendedLevel

/-- What a call on an engine answers. -/
inductive Reply where
  | done
  | result (result : Except EngineError Unit)
  | channels (result : Except EngineError Unit) (channels : List (List Binary32))
  | samples (result : Except EngineError Unit) (samples : List Int16)
  | statistics (stats : EngineStats)
  | reading (value : Int32)

variable {ε ω : Type} [Engine ε ω]

/-- Perform one call on an engine in its world. -/
def step (op : Op) (s : ε × ω) : Reply × ε × ω :=
  let (engine, world) := s
  match op with
  | .reset =>
    let (result, s) := Engine.reset engine world
    (.result result, s)
  | .applyConfig config =>
    let (result, s) := Engine.applyConfig config engine world
    (.result result, s)
  | .processFloat direction channels =>
    let (result, channels, s) := Engine.processFloat direction channels engine world
    (.channels result channels, s)
  | .processPcm direction samples =>
    let (result, samples, s) := Engine.processPcm direction samples engine world
    (.samples result samples, s)
  | .statistics =>
    let (stats, s) := Engine.statistics engine world
    (.statistics stats, s)
  | .hint hint => (.done, Engine.hint hint engine world)
  | .delayMs =>
    let (value, s) := Engine.delayMs engine world
    (.reading value, s)
  | .recommendedLevel =>
    let (value, s) := Engine.recommendedLevel engine world
    (.reading value, s)

end Engine

end VoiceProcessing
