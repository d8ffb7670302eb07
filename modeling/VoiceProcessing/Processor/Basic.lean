import VoiceProcessing.Handle.Basic
import VoiceProcessing.Pcm

/-!
# Processors

A processor is the comfortable front of a handle: it never changes a caller's frame but returns the
processed copy, knows the channel counts itself, takes 16-bit frames through the number path, and
remembers the configuration that was last accepted, also after it has been closed.
-/

namespace VoiceProcessing

/-- A processor on an engine of type `ε`. -/
structure Processor (ε : Type) where
  handle : Handle ε
  /-- The configuration that was last accepted. -/
  config : Config
  deriving DecidableEq

namespace Processor

variable {ε ω : Type} [Engine ε ω]

/-- Make a processor for a configuration. -/
def create (config : Config) (world : ω) : Except Error (Processor ε) × ω :=
  match Handle.create config world with
  | (.error e, world) => (.error e, world)
  | (.ok handle, world) => (.ok { handle, config }, world)

/-- Whether the processor has been closed. -/
def isClosed (p : Processor ε) : Bool :=
  p.handle.isClosed

/-- The snapshot after the latest capture frame. -/
def statistics (p : Processor ε) : Statistics :=
  p.handle.statistics

/-- The same processor around another state of its handle. -/
def withHandle (p : Processor ε) (s : Handle ε × ω) : Processor ε × ω :=
  ({ p with handle := s.1 }, s.2)

/-- Replace the configuration, which is remembered if it is accepted. -/
def applyConfig (config : Config) (p : Processor ε) (world : ω) :
    Except Error Unit × Processor ε × ω :=
  match p.handle.applyConfig config world with
  | (.error e, s) => (.error e, p.withHandle s)
  | (.ok (), s) => (.ok (), { p with config }.withHandle s)

/-- Reset what the engine has learned. -/
def reset (p : Processor ε) (world : ω) : Except Error Unit × Processor ε × ω :=
  let (result, s) := p.handle.reset world
  (result, p.withHandle s)

/-- Pass a copy of a frame through the stream of a direction. The answer is the processed copy. -/
def process (direction : Direction) (frame : List Binary32) (p : Processor ε) (world : ω) :
    Except Fault (Except Error (List Binary32) × Processor ε × ω) := do
  let declared := (p.handle.format direction).channelCount
  let (result, frame, s) ← p.handle.processFloat direction frame declared world
  return (result.map fun () => frame, p.withHandle s)

/-- The processed copy of a capture frame. -/
def processCapture (frame : List Binary32) (p : Processor ε) (world : ω) :
    Except Fault (Except Error (List Binary32) × Processor ε × ω) :=
  p.process .capture frame world

/-- The processed copy of a 16-bit capture frame. -/
def processCapturePcm (frame : List Int16) (p : Processor ε) (world : ω) :
    Except Fault (Except Error (List Int16) × Processor ε × ω) := do
  let (result, s) ← p.process .capture (Pcm.decodeFrame frame) world
  return (result.map Pcm.encodeFrame, s)

/-- Feed a render frame to the engine. -/
def processRender (frame : List Binary32) (p : Processor ε) (world : ω) :
    Except Fault (Except Error Unit × Processor ε × ω) := do
  let (result, s) ← p.process .render frame world
  return (result.map fun _ => (), s)

/-- Feed a 16-bit render frame to the engine. -/
def processRenderPcm (frame : List Int16) (p : Processor ε) (world : ω) :
    Except Fault (Except Error Unit × Processor ε × ω) :=
  p.processRender (Pcm.decodeFrame frame) world

/-- Replace the delay hint of an open processor. -/
def setStreamDelay (delay : StreamDelay) (p : Processor ε) (world : ω) :
    Except Error Unit × Processor ε × ω :=
  if p.isClosed then (.error .closed, p, world)
  else (.ok (), p.withHandle (p.handle.setStreamDelay delay world))

/-- Report the level of the analog input to an open processor. -/
def setAnalogLevel (level : Int32) (p : Processor ε) (world : ω) :
    Except Error Unit × Processor ε × ω :=
  if p.isClosed then (.error .closed, p, world)
  else (.ok (), p.withHandle (p.handle.setAnalogLevel level world))

/-- Announce whether the capture output will be muted; a closed processor ignores it. -/
def setOutputMuted (muted : Bool) (p : Processor ε) (world : ω) : Processor ε × ω :=
  p.withHandle (p.handle.setOutputMuted muted world)

/-- Announce whether a key is being pressed; a closed processor ignores it. -/
def setKeyPressed (pressed : Bool) (p : Processor ε) (world : ω) : Processor ε × ω :=
  p.withHandle (p.handle.setKeyPressed pressed world)

/-- The delay hint in effect in the engine. -/
def streamDelayMs (p : Processor ε) (world : ω) : Option Int32 × Processor ε × ω :=
  let (value, s) := p.handle.streamDelayMs world
  (value, p.withHandle s)

/-- The level of the analog input that the engine recommends. -/
def recommendedLevel (p : Processor ε) (world : ω) : Option Int32 × Processor ε × ω :=
  let (value, s) := p.handle.recommendedLevel world
  (value, p.withHandle s)

/-- Give up the engine. -/
def close (p : Processor ε) (world : ω) : Processor ε × ω :=
  p.withHandle (p.handle.destroy world)

end Processor

end VoiceProcessing
