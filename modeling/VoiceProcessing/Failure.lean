/-!
# Failures and status codes

A call on a handle fails for one of the causes of `Error`, an engine for the status it reports, and
both have a signed status code that crosses the boundary to other programs. A `Fault` is not a
failure of a call but the abort of the program: the point at which an operation cannot go on at all.
-/

namespace VoiceProcessing

/-- A signed status: zero for success and anything else for a failure. -/
abbrev Status := Int32

namespace Status

/-- The operation succeeded. -/
def ok : Status := 0

/-- There is no open handle. -/
def closed : Status := -1

/-- The operation was aborted, or an engine could not be made. -/
def internal : Status := -2

/-- The engine does not support the sample rate. -/
def badSampleRate : Status := -3

/-- The number of channels is zero or not the agreed one. -/
def badChannelCount : Status := -4

/-- A parameter of a stream was out of range. -/
def badStreamParameter : Status := -5

/-- The number of samples does not fit the number of channels. -/
def badDataLength : Status := -6

/-- Whether a status reports success. -/
def isSuccess (status : Status) : Bool :=
  status == ok

end Status

/-- The refusal of an engine, with the status it reported. -/
structure EngineError where
  code : Status
  deriving DecidableEq

/-- The wording of an engine's refusal. -/
def EngineError.message (e : EngineError) : String :=
  "engine error code " ++ toString e.code.toInt

/-- Why a call on a handle or a processor failed. -/
inductive Error where
  /-- A channel count given at creation was zero. -/
  | invalidChannels (capture render : UInt16)
  /-- The engine refused to be made. -/
  | create (code : Status)
  /-- The handle has been destroyed. -/
  | closed
  /-- The frame does not hold one frame of samples for its channels. -/
  | lengthMismatch (expected actual : Nat)
  /-- The declared channel count is not the one fixed at creation. -/
  | channelMismatch (expected actual : Nat)
  /-- The engine failed at the operation. -/
  | engine (code : Status)
  deriving DecidableEq

namespace Error

/-- The status that reports an error. -/
def code : Error → Status
  | invalidChannels _ _ => Status.badChannelCount
  | create code => code
  | closed => Status.closed
  | lengthMismatch _ _ => Status.badDataLength
  | channelMismatch _ _ => Status.badChannelCount
  | engine code => code

/-- The wording of an error. -/
def message : Error → String
  | invalidChannels capture render =>
    "channel counts must be positive (capture " ++ toString capture.toNat
      ++ ", render " ++ toString render.toNat ++ ")"
  | create code => "failed to create audio processor: error code " ++ toString code.toInt
  | closed => "processor is closed"
  | lengthMismatch expected actual =>
    "expected " ++ toString expected ++ " samples, got " ++ toString actual
  | channelMismatch expected actual =>
    "expected " ++ toString expected ++ " channels, got " ++ toString actual
  | engine code => "engine error: code " ++ toString code.toInt

/-- An engine's refusal of an operation, as an error of the handle. -/
def ofEngine (e : EngineError) : Error :=
  engine e.code

end Error

/-- Why an operation cannot go on. -/
inductive Fault where
  /-- The number of samples of a frame does not fit into a machine word. -/
  | lengthOverflow
  /-- The samples cannot be dealt out evenly to the channels. -/
  | unevenSplit
  /-- There are fewer scratch buffers than channels. -/
  | scratchTooSmall
  /-- A buffer cannot be copied back over one of another length. -/
  | lengthsDiffer
  deriving DecidableEq

end VoiceProcessing
