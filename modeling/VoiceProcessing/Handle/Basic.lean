import VoiceProcessing.Engine.Basic
import VoiceProcessing.Interleaving

/-!
# Handles

A handle owns an engine. It checks the geometry of frames against the formats fixed at creation,
takes interleaved frames apart for the engine and puts them together again, remembers the delay hint
as the caller gave it, and keeps a snapshot of the statistics after the latest capture frame.

A handle is open or closed. Closing gives up the engine; from then on frames and configurations are
refused, hints are ignored and there are no readings.

Frames pass through scratch buffers that are kept between calls: one for each channel of the wider
stream, and one for interleaved 16-bit samples. So an engine that fails halfway has touched only
scratch, and the caller's frame is written back when it has succeeded.
-/

namespace VoiceProcessing

/-- A handle on an engine of type `ε`. -/
structure Handle (ε : Type) where
  /-- The engine, as long as the handle is open. -/
  engine : Option ε
  /-- The format of the capture stream. -/
  capture : StreamFormat
  /-- The format of the render stream. -/
  render : StreamFormat
  /-- Scratch buffers for separate channels. -/
  channels : List (List Binary32)
  /-- The scratch buffer for 16-bit samples. -/
  samples : List Int16
  /-- The delay hint as the caller gave it. -/
  streamDelay : StreamDelay
  /-- The snapshot. -/
  statistics : Statistics
  deriving DecidableEq

namespace Handle

variable {ε ω : Type} [Engine ε ω]

/-- Create and set up an engine for a configuration. A fixed delay of the echo canceller is
forwarded before anything else happens. -/
def create (config : Config) (world : ω) : Except Error (Handle ε) × ω :=
  match StreamFormat.ofChannels config.captureChannels,
      StreamFormat.ofChannels config.renderChannels with
  | .ok capture, .ok render =>
    match Engine.create config capture render world with
    | (.error e, world) => (.error (.create e.code), world)
    | (.ok engine, world) =>
      let (engine, world) :=
        match config.streamDelay with
        | .agnostic => (engine, world)
        | .fixed ms => Engine.hint (.delay ms) engine world
      (.ok
        { engine := some engine
          capture
          render
          channels := List.replicate (max capture.channelCount render.channelCount)
            (List.replicate samplesPerFrame 0)
          samples := []
          streamDelay := config.streamDelay
          statistics := {} },
        world)
  | _, _ => (.error (.invalidChannels config.captureChannels config.renderChannels), world)

/-- Whether the handle has been destroyed. -/
def isClosed (h : Handle ε) : Bool :=
  h.engine.isNone

/-- The format of the stream in a direction. -/
def format (h : Handle ε) : Direction → StreamFormat
  | .capture => h.capture
  | .render => h.render

/-- Reset what the engine has learned. -/
def reset (h : Handle ε) (world : ω) : Except Error Unit × Handle ε × ω :=
  match h.engine with
  | none => (.error .closed, h, world)
  | some engine =>
    let (result, engine, world) := Engine.reset engine world
    (result.mapError Error.ofEngine, { h with engine := some engine }, world)

/-- Replace the configuration of the engine and, if it accepts it, the delay hint. -/
def applyConfig (config : Config) (h : Handle ε) (world : ω) :
    Except Error Unit × Handle ε × ω :=
  match h.engine with
  | none => (.error .closed, h, world)
  | some engine =>
    match Engine.applyConfig config engine world with
    | (.error e, engine, world) =>
      (.error (.ofEngine e), { h with engine := some engine }, world)
    | (.ok (), engine, world) =>
      let (engine, world) := Engine.hint (.delay config.streamDelay.hintMs) engine world
      (.ok (), { h with engine := some engine, streamDelay := config.streamDelay }, world)

/-- Give up the engine and clear the snapshot. A closed handle stays as it is. -/
def destroy (h : Handle ε) (world : ω) : Handle ε × ω :=
  match h.engine with
  | none => (h, world)
  | some engine => ({ h with engine := none, statistics := {} }, Engine.destroy engine world)

/-- A frame must have the declared number of channels, which must be that of the stream, and one
frame of samples for each. -/
def checkFrame (format : StreamFormat) (length declared : Nat) :
    Except Fault (Except Error Unit) := do
  if declared ≠ format.channelCount then
    return .error (.channelMismatch format.channelCount declared)
  let expected ← frameLength format.channelCount
  if length ≠ expected then
    return .error (.lengthMismatch expected length)
  return .ok ()

/-- The first scratch buffers, one for each of `count` channels. -/
def lend (h : Handle ε) (count : Nat) : Except Fault (List (List Binary32)) :=
  if count ≤ h.channels.length then .ok (h.channels.take count) else .error .scratchTooSmall

/-- Take a new snapshot after a capture frame. -/
def observe (direction : Direction) (h : Handle ε) (engine : ε) (world : ω) : Handle ε × ω :=
  match direction with
  | .render => ({ h with engine := some engine }, world)
  | .capture =>
    let (stats, engine, world) := Engine.statistics engine world
    ({ h with engine := some engine, statistics := stats.flatten }, world)

/-- Process an interleaved frame of numbers, declared to have the given number of channels. The
answer holds the caller's frame as it is afterwards. -/
def processFloat (direction : Direction) (frame : List Binary32) (declared : Nat)
    (h : Handle ε) (world : ω) :
    Except Fault (Except Error Unit × List Binary32 × Handle ε × ω) :=
  match h.engine with
  | none => .ok (.error .closed, frame, h, world)
  | some engine => do
    match ← checkFrame (h.format direction) frame.length declared with
    | .error e => return (.error e, frame, h, world)
    | .ok () =>
      let channels ← deinterleave frame (← h.lend declared)
      let (result, channels, engine, world) :=
        Engine.processFloat direction channels engine world
      let h := { h with channels := channels ++ h.channels.drop declared }
      match result with
      | .error e => return (.error (.ofEngine e), frame, { h with engine := some engine }, world)
      | .ok () => return (.ok (), interleave channels frame, h.observe direction engine world)

/-- The contents of a buffer copied over a frame of the same length. -/
def copyBack (frame samples : List Int16) : Except Fault (List Int16) :=
  if samples.length = frame.length then .ok samples else .error .lengthsDiffer

/-- Process an interleaved frame of 16-bit samples, declared to have the given number of channels.
The answer holds the caller's frame as it is afterwards. -/
def processPcm (direction : Direction) (frame : List Int16) (declared : Nat)
    (h : Handle ε) (world : ω) :
    Except Fault (Except Error Unit × List Int16 × Handle ε × ω) :=
  match h.engine with
  | none => .ok (.error .closed, frame, h, world)
  | some engine => do
    match ← checkFrame (h.format direction) frame.length declared with
    | .error e => return (.error e, frame, h, world)
    | .ok () =>
      let (result, samples, engine, world) := Engine.processPcm direction frame engine world
      let h := { h with samples }
      match result with
      | .error e => return (.error (.ofEngine e), frame, { h with engine := some engine }, world)
      | .ok () =>
        let frame ← copyBack frame samples
        return (.ok (), frame, h.observe direction engine world)

/-- Pass a hint to the engine, if there is one. -/
def hint (hint : Hint) (h : Handle ε) (world : ω) : Handle ε × ω :=
  match h.engine with
  | none => (h, world)
  | some engine =>
    let (engine, world) := Engine.hint hint engine world
    ({ h with engine := some engine }, world)

/-- Replace the delay hint. -/
def setStreamDelay (delay : StreamDelay) (h : Handle ε) (world : ω) : Handle ε × ω :=
  match h.engine with
  | none => (h, world)
  | some engine =>
    let (engine, world) := Engine.hint (.delay delay.hintMs) engine world
    ({ h with engine := some engine, streamDelay := delay }, world)

/-- Report the level of the analog input. -/
def setAnalogLevel (level : Int32) (h : Handle ε) (world : ω) : Handle ε × ω :=
  h.hint (.analogLevel level) world

/-- Announce whether the capture output will be muted. -/
def setOutputMuted (muted : Bool) (h : Handle ε) (world : ω) : Handle ε × ω :=
  h.hint (.outputMuted muted) world

/-- Announce whether a key is being pressed. -/
def setKeyPressed (pressed : Bool) (h : Handle ε) (world : ω) : Handle ε × ω :=
  h.hint (.keyPressed pressed) world

/-- A reading of the engine, if there is one. -/
def read (reading : ε → ω → Int32 × ε × ω) (h : Handle ε) (world : ω) :
    Option Int32 × Handle ε × ω :=
  match h.engine with
  | none => (none, h, world)
  | some engine =>
    let (value, engine, world) := reading engine world
    (some value, { h with engine := some engine }, world)

/-- The delay hint in effect in the engine. -/
def streamDelayMs (h : Handle ε) (world : ω) : Option Int32 × Handle ε × ω :=
  h.read Engine.delayMs world

/-- The level of the analog input that the engine recommends. -/
def recommendedLevel (h : Handle ε) (world : ω) : Option Int32 × Handle ε × ω :=
  h.read Engine.recommendedLevel world

end Handle

end VoiceProcessing
