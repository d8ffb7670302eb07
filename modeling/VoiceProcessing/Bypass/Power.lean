import VoiceProcessing.Binary.Arithmetic
import VoiceProcessing.Pcm

/-!
# Signal power

The power of a signal is the mean of its squared samples, summed in order in double precision.
-/

namespace VoiceProcessing.Power

/-- The square of a sample in double precision. -/
def squared (sample : Binary32) : Binary64 :=
  sample.convert .double * sample.convert .double

/-- The sum of a list, from left to right. -/
def sum (terms : List Binary64) : Binary64 :=
  terms.foldl (· + ·) 0

/-- The mean power of a signal; an empty one has none. -/
def ofSamples (samples : List Binary32) : Binary64 :=
  if samples.length = 0 then 0
  else sum (samples.map squared) / Binary.ofInt samples.length

/-- The mean power over all samples of several channels. -/
def ofChannels (channels : List (List Binary32)) : Binary64 :=
  let count := channels.flatten.length
  if count = 0 then 0
  else
    sum (channels.map fun channel => ofSamples channel * Binary.ofInt channel.length)
      / Binary.ofInt count

/-- The mean power of interleaved 16-bit samples. -/
def ofPcm (samples : List Int16) : Binary64 :=
  ofSamples (samples.map Pcm.decode)

end VoiceProcessing.Power
