import VoiceProcessing.Binary.Arithmetic

/-!
# 16-bit samples

Samples of 16 bits stand for fractions of full scale. Reading one divides by `32768`, which is
exact; writing one clamps to full scale, multiplies by `32767` and rounds, so that neither end of
the range overflows.
-/

namespace VoiceProcessing.Pcm

/-- The number that a 16-bit sample stands for, at least minus one and less than one. -/
def decode (sample : Int16) : Binary32 :=
  Binary.ofInt sample.toInt / 32768

/-- The 16-bit sample nearest to a number; beyond full scale it is full scale, and a value that is
not a number is silence. -/
def encode (sample : Binary32) : Int16 :=
  if sample.isNaN then 0
  else Int16.ofInt ((sample.clamp (-1) 1) * 32767).roundHalfAway

/-- `decode` on every sample of a frame. -/
def decodeFrame (frame : List Int16) : List Binary32 :=
  frame.map decode

/-- `encode` on every sample of a frame. -/
def encodeFrame (frame : List Binary32) : List Int16 :=
  frame.map encode

end VoiceProcessing.Pcm
