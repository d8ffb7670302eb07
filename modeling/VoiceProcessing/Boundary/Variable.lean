import VoiceProcessing.Boundary.Record
import VoiceProcessing.Handle.Basic
import VoiceProcessing.History

/-!
# Handle variables

On the other side of the boundary a program holds a variable that refers to a handle or to nothing.
Every call takes such a variable; one that refers to nothing is answered as a closed handle would
answer. Results are signed status codes, and a call that is aborted reports an internal error.
-/

namespace VoiceProcessing.Boundary

/-- The version of the interface. -/
def version : String := "0.1.0"

/-- A variable of a program: a handle, or nothing. -/
abbrev Variable (ε : Type) := Option (Handle ε)

/-- The status of a result. -/
def statusOf : Except Error Unit → Status
  | .ok () => Status.ok
  | .error e => e.code

/-- The channel count that a program declares; a negative one becomes a count that no handle has. -/
def declaredCount (channels : Int32) : Nat :=
  if 0 ≤ channels then channels.toNatClampNeg else wordLimit - 1

namespace Variable

variable {ε ω : Type} [Engine ε ω]

/-- Create a handle. The status is stored in the place for it, if the program gives one. -/
def create (record : ConfigRecord) (place : Option Status) (world : ω) :
    (Variable ε × Option Status) × ω :=
  match Handle.create record.toConfig world with
  | (.ok handle, world) => ((some handle, place.map fun _ => Status.ok), world)
  | (.error e, world) => ((none, place.map fun _ => e.code), world)

/-- Destroy the handle of a variable, which then refers to nothing. -/
def destroy (v : Variable ε) (world : ω) : Variable ε × ω :=
  match v with
  | none => (none, world)
  | some handle => (none, (handle.destroy world).2)

/-- Destroy the handle of the variable that a program points at, if it points at any. -/
def destroyAt (pointer : Option (Variable ε)) (world : ω) : Option (Variable ε) × ω :=
  match pointer with
  | none => (none, world)
  | some v =>
    let (v, world) := v.destroy world
    (some v, world)

/-- Reset what the engine has learned. -/
def reset (v : Variable ε) (world : ω) : Status × Variable ε × ω :=
  match v with
  | none => (Status.closed, v, world)
  | some handle =>
    let (result, handle, world) := handle.reset world
    (statusOf result, some handle, world)

/-- Replace the configuration; the channel counts of the record are ignored. -/
def applyConfig (record : ConfigRecord) (v : Variable ε) (world : ω) :
    Status × Variable ε × ω :=
  match v with
  | none => (Status.closed, v, world)
  | some handle =>
    let (result, handle, world) := handle.applyConfig record.toConfig world
    (statusOf result, some handle, world)

/-- Process a frame of numbers in place. Without a frame the call is about an empty one. -/
def processFloat (direction : Direction) (frame : Option (List Binary32)) (channels : Int32)
    (v : Variable ε) (world : ω) : Status × Option (List Binary32) × Variable ε × ω :=
  match v with
  | none => (Status.closed, frame, v, world)
  | some handle =>
    match handle.processFloat direction (frame.getD []) (declaredCount channels) world with
    | .error _ => (Status.internal, frame, v, world)
    | .ok (result, out, handle, world) =>
      (statusOf result, frame.map fun _ => out, some handle, world)

/-- Process a frame of 16-bit samples in place. Without a frame the call is about an empty one. -/
def processPcm (direction : Direction) (frame : Option (List Int16)) (channels : Int32)
    (v : Variable ε) (world : ω) : Status × Option (List Int16) × Variable ε × ω :=
  match v with
  | none => (Status.closed, frame, v, world)
  | some handle =>
    match handle.processPcm direction (frame.getD []) (declaredCount channels) world with
    | .error _ => (Status.internal, frame, v, world)
    | .ok (result, out, handle, world) =>
      (statusOf result, frame.map fun _ => out, some handle, world)

/-- The snapshot after the latest capture frame; all zero without a handle. -/
def statistics (v : Variable ε) : StatisticsRecord :=
  match v with
  | none => {}
  | some handle => .ofStatistics handle.statistics

/-- Make a change that answers nothing; without a handle there is nothing to change. -/
def update (change : Handle ε → ω → Handle ε × ω) (v : Variable ε) (world : ω) :
    Variable ε × ω :=
  match v with
  | none => (none, world)
  | some handle =>
    let (handle, world) := change handle world
    (some handle, world)

/-- Replace the delay hint, given in milliseconds. -/
def setStreamDelayMs (ms : Int32) (v : Variable ε) (world : ω) : Variable ε × ω :=
  v.update (Handle.setStreamDelay (streamDelayOfMs ms)) world

/-- Report the level of the analog input. -/
def setAnalogLevel (level : Int32) (v : Variable ε) (world : ω) : Variable ε × ω :=
  v.update (Handle.setAnalogLevel level) world

/-- Announce whether the capture output will be muted. -/
def setOutputMuted (muted : Bool) (v : Variable ε) (world : ω) : Variable ε × ω :=
  v.update (Handle.setOutputMuted muted) world

/-- Announce whether a key is being pressed. -/
def setKeyPressed (pressed : Bool) (v : Variable ε) (world : ω) : Variable ε × ω :=
  v.update (Handle.setKeyPressed pressed) world

/-- A reading; zero when there is none. -/
def read (reading : Handle ε → ω → Option Int32 × Handle ε × ω) (v : Variable ε) (world : ω) :
    Int32 × Variable ε × ω :=
  match v with
  | none => (0, none, world)
  | some handle =>
    let (value, handle, world) := reading handle world
    (value.getD 0, some handle, world)

/-- The delay hint in effect in the engine. -/
def streamDelayMs (v : Variable ε) (world : ω) : Int32 × Variable ε × ω :=
  v.read Handle.streamDelayMs world

/-- The level of the analog input that the engine recommends. -/
def recommendedLevel (v : Variable ε) (world : ω) : Int32 × Variable ε × ω :=
  v.read Handle.recommendedLevel world

/-- A call on a handle variable that has been created. -/
inductive Op where
  | destroy
  | reset
  | applyConfig (record : ConfigRecord)
  | processFloat (direction : Direction) (frame : Option (List Binary32)) (channels : Int32)
  | processPcm (direction : Direction) (frame : Option (List Int16)) (channels : Int32)
  | statistics
  | setStreamDelayMs (ms : Int32)
  | setAnalogLevel (level : Int32)
  | setOutputMuted (muted : Bool)
  | setKeyPressed (pressed : Bool)
  | streamDelayMs
  | recommendedLevel
  deriving DecidableEq

/-- What a call on a handle variable answers. -/
inductive Reply where
  | done
  | status (status : Status)
  | float (status : Status) (frame : Option (List Binary32))
  | pcm (status : Status) (frame : Option (List Int16))
  | statistics (record : StatisticsRecord)
  | reading (value : Int32)
  deriving DecidableEq

/-- Perform one call. -/
def step (op : Op) (s : Variable ε × ω) : Reply × Variable ε × ω :=
  let (v, world) := s
  match op with
  | .destroy => (.done, v.destroy world)
  | .reset =>
    let (status, s) := v.reset world
    (.status status, s)
  | .applyConfig record =>
    let (status, s) := v.applyConfig record world
    (.status status, s)
  | .processFloat direction frame channels =>
    let (status, frame, s) := v.processFloat direction frame channels world
    (.float status frame, s)
  | .processPcm direction frame channels =>
    let (status, frame, s) := v.processPcm direction frame channels world
    (.pcm status frame, s)
  | .statistics => (.statistics v.statistics, s)
  | .setStreamDelayMs ms => (.done, v.setStreamDelayMs ms world)
  | .setAnalogLevel level => (.done, v.setAnalogLevel level world)
  | .setOutputMuted muted => (.done, v.setOutputMuted muted world)
  | .setKeyPressed pressed => (.done, v.setKeyPressed pressed world)
  | .streamDelayMs =>
    let (value, s) := v.streamDelayMs world
    (.reading value, s)
  | .recommendedLevel =>
    let (value, s) := v.recommendedLevel world
    (.reading value, s)

/-- Perform a list of calls. -/
def run : List Op → Variable ε × ω → List Reply × Variable ε × ω :=
  History.run step

/-- Create a handle, perform a list of calls on its variable, and destroy it. The answer is what
creation stored in the place for the status, and the replies. -/
def lifetime (ε : Type) {ω : Type} [Engine ε ω] (record : ConfigRecord) (place : Option Status)
    (ops : List Op) (world : ω) : (Option Status × List Reply) × ω :=
  let ((v, place), world) := create (ε := ε) record place world
  let (replies, v, world) := run ops (v, world)
  ((place, replies), (v.destroy world).2)

end Variable

end VoiceProcessing.Boundary
