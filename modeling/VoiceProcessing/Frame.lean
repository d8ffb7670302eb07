import VoiceProcessing.Failure

/-!
# Frames

Audio is processed in frames of ten milliseconds at a fixed rate, so the geometry of a stream is its
number of channels alone.
-/

namespace VoiceProcessing

/-- The rate of every stream in samples per second. -/
def sampleRateHz : Nat := 48000

/-- The duration of a frame in milliseconds. -/
def frameMs : Nat := 10

/-- The samples that each channel contributes to a frame. -/
def samplesPerFrame : Nat := sampleRateHz * frameMs / 1000

/-- Lengths and counts are below this bound, two to the power of 64. -/
def wordLimit : Nat := 18446744073709551616

/-- The number of interleaved samples in a frame of `channels` channels. -/
def frameLength (channels : Nat) : Except Fault Nat :=
  if channels * samplesPerFrame < wordLimit then .ok (channels * samplesPerFrame)
  else .error .lengthOverflow

/-- Which way a stream goes. -/
inductive Direction where
  /-- From the microphone: the near end. -/
  | capture
  /-- To the loudspeaker: the far end. -/
  | render
  deriving DecidableEq

/-- The format of a stream: a number of channels that is not zero. -/
structure StreamFormat where
  channels : UInt16
  channels_ne_zero : channels ≠ 0
  deriving DecidableEq

namespace StreamFormat

/-- Why a stream format is refused. -/
inductive Invalid where
  | zeroChannels
  deriving DecidableEq

/-- The wording of a refusal. -/
def Invalid.message : Invalid → String
  | .zeroChannels => "a stream needs at least one channel"

/-- The format with the given number of channels. -/
def ofChannels (channels : UInt16) : Except Invalid StreamFormat :=
  if h : channels = 0 then .error .zeroChannels else .ok ⟨channels, h⟩

/-- The number of channels. -/
def channelCount (s : StreamFormat) : Nat :=
  s.channels.toNat

/-- The number of interleaved samples in a frame. -/
def frameSamples (s : StreamFormat) : Nat :=
  s.channelCount * samplesPerFrame

theorem channelCount_pos (s : StreamFormat) : 0 < s.channelCount :=
  Nat.pos_of_ne_zero fun h => s.channels_ne_zero (UInt16.toNat_inj.mp h)

theorem channelCount_lt (s : StreamFormat) : s.channelCount < 65536 :=
  s.channels.toNat_lt

/-- The frame length of a stream format never overflows. -/
theorem frameLength_channelCount (s : StreamFormat) :
    frameLength s.channelCount = .ok s.frameSamples := by
  have h := s.channelCount_lt
  have hlt : s.channelCount * samplesPerFrame < wordLimit := by
    simp only [samplesPerFrame, sampleRateHz, frameMs, wordLimit]
    omega
  simp [frameLength, frameSamples, hlt]

end StreamFormat

end VoiceProcessing
