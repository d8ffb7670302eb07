import VoiceProcessing.Native.Record

/-!
# The native library

Nothing is known about the library behind the foreign interface but the shape of its calls. A
library is therefore an arbitrary function: it answers each call from a state of its own, which it
may change in any way. What a call can answer depends on the call: a processing call returns a
status and may store any samples in the buffers it was lent, but cannot change how long they are.

A session is the state of a library together with the log of all calls made so far.
-/

namespace VoiceProcessing.Native

/-- Contents of one buffer after it was lent out: any elements, but as many as before. -/
abbrev Overwritten {α : Type} (source : List α) :=
  { out : List α // out.length = source.length }

/-- Contents of several buffers after they were lent out: any elements, but as many buffers of the
same lengths as before. -/
abbrev OverwrittenAll {α : Type} (source : List (List α)) :=
  { out : List (List α) // out.map List.length = source.map List.length }

/-- A call of the library; `ι` are its references to engine instances. -/
inductive Call (ι : Type) where
  | create (config : FlatConfig)
  | destroy (ref : ι)
  | reset (ref : ι) (capture render : WireFormat)
  | applyConfig (ref : ι) (config : FlatConfig)
  | processFloat (ref : ι) (direction : Direction) (source : List (List Binary32))
    (input output : WireFormat)
  | processPcm (ref : ι) (direction : Direction) (source : List Int16)
    (sourceLength : Int32) (input output : WireFormat) (destinationLength : Int32)
  | statistics (ref : ι)
  | setDelay (ref : ι) (ms : Int32)
  | delay (ref : ι)
  | setAnalogLevel (ref : ι) (level : Int32)
  | recommendedLevel (ref : ι)
  | setOutputMuted (ref : ι) (muted : Bool)
  | setKeyPressed (ref : ι) (pressed : Bool)
  deriving DecidableEq

/-- What the library answers to a call. A call that makes an instance may answer nothing. -/
@[reducible] def Call.Answer {ι : Type} : Call ι → Type
  | create _ => Option ι
  | destroy _ => Unit
  | reset _ _ _ => Status
  | applyConfig _ _ => Status
  | processFloat _ _ source _ _ => Status × OverwrittenAll source
  | processPcm _ _ source _ _ _ _ => Status × Overwritten source
  | statistics _ => Status × NativeStats
  | setDelay _ _ => Status
  | delay _ => Int32
  | setAnalogLevel _ _ => Status
  | recommendedLevel _ => Int32
  | setOutputMuted _ _ => Unit
  | setKeyPressed _ _ => Unit

/-- A library with states `σ` and instance references `ι`. -/
structure Library (σ ι : Type) where
  /-- The answer to a call and the state after it. -/
  answer : (call : Call ι) → σ → call.Answer × σ

/-- A library in use: its state and the calls made so far, the earliest first. -/
structure Session (σ ι : Type) where
  state : σ
  log : List (Call ι) := []

/-- Make a call and log it. -/
def Library.call {σ ι : Type} (library : Library σ ι) (call : Call ι) (s : Session σ ι) :
    call.Answer × Session σ ι :=
  let (answer, state) := library.answer call s.state
  (answer, { state, log := s.log ++ [call] })

end VoiceProcessing.Native
