import VoiceProcessing.History
import VoiceProcessing.Processor.Basic

/-!
# Operations on a processor

The calls that a caller can make on a processor, as data. The state is the processor together with
the world of its engine. What only looks at the processor (whether it is closed, its configuration
and its snapshot) needs no operation.
-/

namespace VoiceProcessing.Processor

/-- A call on a processor. -/
inductive Op where
  | processCapture (frame : List Binary32)
  | processCapturePcm (frame : List Int16)
  | processRender (frame : List Binary32)
  | processRenderPcm (frame : List Int16)
  | reset
  | applyConfig (config : Config)
  | close
  | setStreamDelay (delay : StreamDelay)
  | setAnalogLevel (level : Int32)
  | setOutputMuted (muted : Bool)
  | setKeyPressed (pressed : Bool)
  | streamDelayMs
  | recommendedLevel
  deriving DecidableEq

/-- What a call on a processor answers. -/
inductive Reply where
  /-- Nothing. -/
  | done
  /-- Whether the call succeeded. -/
  | result (result : Except Error Unit)
  /-- The processed copy of a frame. -/
  | float (result : Except Error (List Binary32))
  /-- The processed copy of a 16-bit frame. -/
  | pcm (result : Except Error (List Int16))
  /-- A reading, unless the processor is closed. -/
  | reading (value : Option Int32)
  /-- The call was aborted. -/
  | fault (fault : Fault)

variable {ε ω : Type} [Engine ε ω]

/-- The reply to a call that may be aborted; an aborted call is counted as having left everything
as it was. -/
def replying {α : Type} (reply : α → Reply) (s : Processor ε × ω) :
    Except Fault (α × Processor ε × ω) → Reply × Processor ε × ω
  | .error fault => (.fault fault, s)
  | .ok (answer, s) => (reply answer, s)

/-- Perform one call. -/
def step (op : Op) (s : Processor ε × ω) : Reply × Processor ε × ω :=
  let (p, world) := s
  match op with
  | .processCapture frame => replying .float s (p.processCapture frame world)
  | .processCapturePcm frame => replying .pcm s (p.processCapturePcm frame world)
  | .processRender frame => replying .result s (p.processRender frame world)
  | .processRenderPcm frame => replying .result s (p.processRenderPcm frame world)
  | .reset =>
    let (result, s) := p.reset world
    (.result result, s)
  | .applyConfig config =>
    let (result, s) := p.applyConfig config world
    (.result result, s)
  | .close => (.done, p.close world)
  | .setStreamDelay delay =>
    let (result, s) := p.setStreamDelay delay world
    (.result result, s)
  | .setAnalogLevel level =>
    let (result, s) := p.setAnalogLevel level world
    (.result result, s)
  | .setOutputMuted muted => (.done, p.setOutputMuted muted world)
  | .setKeyPressed pressed => (.done, p.setKeyPressed pressed world)
  | .streamDelayMs =>
    let (value, s) := p.streamDelayMs world
    (.reading value, s)
  | .recommendedLevel =>
    let (value, s) := p.recommendedLevel world
    (.reading value, s)

/-- Perform a list of calls. -/
def run : List Op → Processor ε × ω → List Reply × Processor ε × ω :=
  History.run step

/-- Make a processor, perform a list of calls on it, and drop it. The answer is the error of
creation or the replies, with the world at the end. -/
def lifetime (ε : Type) {ω : Type} [Engine ε ω] (config : Config) (ops : List Op) (world : ω) :
    Except Error (List Reply) × ω :=
  match create (ε := ε) config world with
  | (.error e, world) => (.error e, world)
  | (.ok p, world) =>
    let (replies, p, world) := run ops (p, world)
    (.ok replies, (p.close world).2)

end VoiceProcessing.Processor
