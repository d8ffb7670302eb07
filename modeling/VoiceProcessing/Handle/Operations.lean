import VoiceProcessing.Handle.Basic
import VoiceProcessing.History

/-!
# Operations on a handle

The calls that a caller can make on a handle, as data, so that one can speak of all sequences of
them. The state is the handle together with the world of its engine. What only looks at the handle
(its formats, delay hint and snapshot) needs no operation.
-/

namespace VoiceProcessing.Handle

/-- A call on a handle. -/
inductive Op where
  | processFloat (direction : Direction) (frame : List Binary32) (declared : Nat)
  | processPcm (direction : Direction) (frame : List Int16) (declared : Nat)
  | reset
  | applyConfig (config : Config)
  | destroy
  | setStreamDelay (delay : StreamDelay)
  | setAnalogLevel (level : Int32)
  | setOutputMuted (muted : Bool)
  | setKeyPressed (pressed : Bool)
  | streamDelayMs
  | recommendedLevel
  deriving DecidableEq

/-- What a call on a handle answers. -/
inductive Reply where
  /-- Nothing. -/
  | done
  /-- Whether the call succeeded. -/
  | result (result : Except Error Unit)
  /-- Whether the call succeeded, and the caller's frame after it. -/
  | float (result : Except Error Unit) (frame : List Binary32)
  /-- Whether the call succeeded, and the caller's frame after it. -/
  | pcm (result : Except Error Unit) (frame : List Int16)
  /-- A reading, unless the handle is closed. -/
  | reading (value : Option Int32)
  /-- The call was aborted. -/
  | fault (fault : Fault)

variable {ε ω : Type} [Engine ε ω]

/-- Perform one call. An aborted call is counted as having left everything as it was. -/
def step (op : Op) (s : Handle ε × ω) : Reply × Handle ε × ω :=
  let (h, world) := s
  match op with
  | .processFloat direction frame declared =>
    match h.processFloat direction frame declared world with
    | .error fault => (.fault fault, s)
    | .ok (result, frame, s) => (.float result frame, s)
  | .processPcm direction frame declared =>
    match h.processPcm direction frame declared world with
    | .error fault => (.fault fault, s)
    | .ok (result, frame, s) => (.pcm result frame, s)
  | .reset =>
    let (result, s) := h.reset world
    (.result result, s)
  | .applyConfig config =>
    let (result, s) := h.applyConfig config world
    (.result result, s)
  | .destroy => (.done, h.destroy world)
  | .setStreamDelay delay => (.done, h.setStreamDelay delay world)
  | .setAnalogLevel level => (.done, h.setAnalogLevel level world)
  | .setOutputMuted muted => (.done, h.setOutputMuted muted world)
  | .setKeyPressed pressed => (.done, h.setKeyPressed pressed world)
  | .streamDelayMs =>
    let (value, s) := h.streamDelayMs world
    (.reading value, s)
  | .recommendedLevel =>
    let (value, s) := h.recommendedLevel world
    (.reading value, s)

/-- Perform a list of calls. -/
def run : List Op → Handle ε × ω → List Reply × Handle ε × ω :=
  History.run step

/-- Create a handle, perform a list of calls on it, and drop it. The answer is the error of creation
or the replies, with the world at the end. -/
def lifetime (ε : Type) {ω : Type} [Engine ε ω] (config : Config) (ops : List Op) (world : ω) :
    Except Error (List Reply) × ω :=
  match create (ε := ε) config world with
  | (.error e, world) => (.error e, world)
  | (.ok h, world) =>
    let (replies, h, world) := run ops (h, world)
    (.ok replies, (h.destroy world).2)

end VoiceProcessing.Handle
