import VoiceProcessing.Binary.Arithmetic

/-!
# Statistics

An engine reports each statistic only when it has one. The snapshot that callers see has a number in
every place, and zero where the engine had nothing to report.
-/

namespace VoiceProcessing

/-- What an engine reports. -/
structure EngineStats where
  /-- The ratio of far-end power to echo power in decibels. -/
  echoReturnLoss : Option Binary64 := none
  /-- The ratio of echo power to output power in decibels. -/
  echoReturnLossEnhancement : Option Binary64 := none
  /-- The fraction of time for which the echo filter was divergent. -/
  divergentFilterFraction : Option Binary64 := none
  /-- The median of the delay estimate. -/
  delayMedianMs : Option Int32 := none
  /-- The standard deviation of the delay estimate. -/
  delayDeviationMs : Option Int32 := none
  /-- The likelihood that echo remains. -/
  residualEchoLikelihood : Option Binary64 := none
  /-- The greatest recent likelihood that echo remains. -/
  residualEchoLikelihoodMax : Option Binary64 := none
  /-- The latest delay estimate. -/
  delayMs : Option Int32 := none
  deriving DecidableEq

/-- The snapshot that callers see. -/
structure Statistics where
  echoReturnLoss : Binary64 := 0
  echoReturnLossEnhancement : Binary64 := 0
  divergentFilterFraction : Binary64 := 0
  residualEchoLikelihood : Binary64 := 0
  delayMedianMs : Int32 := 0
  delayDeviationMs : Int32 := 0
  delayMs : Int32 := 0
  deriving DecidableEq

/-- The snapshot of what an engine reports, with zero for everything it left out. -/
def EngineStats.flatten (s : EngineStats) : Statistics where
  echoReturnLoss := s.echoReturnLoss.getD 0
  echoReturnLossEnhancement := s.echoReturnLossEnhancement.getD 0
  divergentFilterFraction := s.divergentFilterFraction.getD 0
  residualEchoLikelihood := s.residualEchoLikelihood.getD 0
  delayMedianMs := s.delayMedianMs.getD 0
  delayDeviationMs := s.delayDeviationMs.getD 0
  delayMs := s.delayMs.getD 0

theorem flatten_default : ({} : EngineStats).flatten = {} := rfl

end VoiceProcessing
