import VoiceProcessing.Bypass.Engine
import VoiceProcessing.Native.Engine
import VoiceProcessing.Proofs.HandleSteps

/-!
# No failure has the status of success

A program beyond the boundary sees results as numbers, so a failure whose number is that of success
would be lost. The failures that a handle finds have numbers of their own, and those of its engine
are passed on, so that all depends on the engine. Neither of the two engines ever fails with the
status of success.
-/

namespace VoiceProcessing

/-- The outcome in an engine's reply, if the call could fail. -/
def Engine.Reply.outcome : Engine.Reply → Option (Except EngineError Unit)
  | .result outcome | .channels outcome _ | .samples outcome _ => some outcome
  | .done | .statistics _ | .reading _ => none

/-- An engine whose failures are told apart from success by their status. -/
class TruthfulEngine (ε : Type) (ω : outParam Type) [Engine ε ω] : Prop where
  code_ne_ok (op : Engine.Op) (s : ε × ω) (e : EngineError) :
    (Engine.step op s).1.outcome = some (.error e) → e.code ≠ Status.ok

namespace Bypass

/-- Channels are refused with a status of failure. -/
theorem code_ne_ok_of_checkChannels {format : StreamFormat} {channels : List (List Binary32)}
    {e : EngineError} (hrefused : checkChannels format channels = .error e) :
    e.code ≠ Status.ok := by
  rw [checkChannels] at hrefused
  split at hrefused
  · cases hrefused
    decide
  · split at hrefused
    · cases hrefused
      decide
    · cases hrefused

/-- Samples are refused with a status of failure. -/
theorem code_ne_ok_of_checkSamples {format : StreamFormat} {samples : List Int16}
    {e : EngineError} (hrefused : checkSamples format samples = .error e) :
    e.code ≠ Status.ok := by
  rw [checkSamples] at hrefused
  split at hrefused
  · cases hrefused
    decide
  · cases hrefused

instance : TruthfulEngine Bypass Unit where
  code_ne_ok op s e hfailed := by
    obtain ⟨b, world⟩ := s
    cases op with
    | processFloat direction channels =>
      simp only [Engine.step, Engine.processFloat] at hfailed
      cases hcheck : checkChannels (b.format direction) channels with
      | error e' =>
        rw [hcheck] at hfailed
        cases hfailed
        exact code_ne_ok_of_checkChannels hcheck
      | ok _ =>
        rw [hcheck] at hfailed
        cases hfailed
    | processPcm direction samples =>
      simp only [Engine.step, Engine.processPcm] at hfailed
      cases hcheck : checkSamples (b.format direction) samples with
      | error e' =>
        rw [hcheck] at hfailed
        cases hfailed
        exact code_ne_ok_of_checkSamples hcheck
      | ok _ =>
        rw [hcheck] at hfailed
        cases hfailed
    | _ => cases hfailed

end Bypass

namespace Native

variable {σ ι : Type} {library : Library σ ι}

/-- A status that is an error is not that of success. -/
theorem code_ne_ok_of_checkStatus {status : Status} {e : EngineError}
    (hfailed : checkStatus status = .error e) : e.code ≠ Status.ok := by
  rw [checkStatus] at hfailed
  split at hfailed
  · cases hfailed
  · next hstatus =>
    cases hfailed
    exact hstatus

namespace NativeEngine

/-- Channels are refused with a status of failure. -/
theorem code_ne_ok_of_checkChannels {format : WireFormat} {channels : List (List Binary32)}
    {e : EngineError} (hrefused : checkChannels format channels = .error e) :
    e.code ≠ Status.ok := by
  rw [checkChannels] at hrefused
  split at hrefused
  · cases hrefused
    decide
  · split at hrefused
    · cases hrefused
      decide
    · cases hrefused

/-- Samples are refused with a status of failure. -/
theorem code_ne_ok_of_checkSamples {format : WireFormat} {samples : List Int16}
    {e : EngineError} (hrefused : checkSamples format samples = .error e) :
    e.code ≠ Status.ok := by
  rw [checkSamples] at hrefused
  split at hrefused
  · cases hrefused
    decide
  · cases hrefused

instance : TruthfulEngine (NativeEngine library) (Session σ ι) where
  code_ne_ok op s e hfailed := by
    obtain ⟨engine, session⟩ := s
    cases op with
    | reset => exact code_ne_ok_of_checkStatus (Option.some.inj hfailed)
    | applyConfig config => exact code_ne_ok_of_checkStatus (Option.some.inj hfailed)
    | processFloat direction channels =>
      simp only [Engine.step, Engine.processFloat, processFloat] at hfailed
      cases hcheck : checkChannels (engine.format direction) channels with
      | error e' =>
        rw [hcheck] at hfailed
        cases hfailed
        exact code_ne_ok_of_checkChannels hcheck
      | ok _ =>
        rw [hcheck] at hfailed
        exact code_ne_ok_of_checkStatus (Option.some.inj hfailed)
    | processPcm direction samples =>
      simp only [Engine.step, Engine.processPcm, processPcm] at hfailed
      cases hcheck : checkSamples (engine.format direction) samples with
      | error e' =>
        rw [hcheck] at hfailed
        cases hfailed
        exact code_ne_ok_of_checkSamples hcheck
      | ok _ =>
        rw [hcheck] at hfailed
        exact code_ne_ok_of_checkStatus (Option.some.inj hfailed)
    | hint hint => cases hint <;> cases hfailed
    | statistics => cases hfailed
    | delayMs => cases hfailed
    | recommendedLevel => cases hfailed

end NativeEngine

end Native

namespace Handle

variable {ε ω : Type} [Engine ε ω]

/-- The outcome in a handle's reply, if the call could fail and was not aborted. -/
def Reply.outcome : Reply → Option (Except Error Unit)
  | .result outcome | .float outcome _ | .pcm outcome _ => some outcome
  | .done | .reading _ | .fault _ => none

/-- A frame is refused with a status of failure. -/
theorem code_ne_ok_of_refusal {h : Handle ε} {direction : Direction} {length declared : Nat}
    {e : Error} (hrefused : h.refusal direction length declared = some e) :
    e.code ≠ Status.ok := by
  rw [refusal] at hrefused
  split at hrefused
  · cases hrefused
    decide
  · split at hrefused
    · cases hrefused
      exact (by decide : Status.badChannelCount ≠ Status.ok)
    · split at hrefused
      · cases hrefused
        exact (by decide : Status.badDataLength ≠ Status.ok)
      · cases hrefused

/-- An error passed on from an engine has the status of the engine's error. -/
theorem code_ne_ok_of_mapError {result : Except EngineError Unit}
    (htruthful : ∀ e, result = .error e → e.code ≠ Status.ok) {e : Error}
    (hfailed : result.mapError Error.ofEngine = .error e) : e.code ≠ Status.ok := by
  cases result with
  | error e' =>
    cases hfailed
    exact htruthful e' rfl
  | ok _ => cases hfailed

/-- A call on a handle never fails with the status of success. -/
theorem code_ne_ok [LawfulEngine ε ω] [TruthfulEngine ε ω] {h : Handle ε} (hscratch : h.HasScratch)
    (op : Op) (world : ω) (e : Error)
    (hfailed : (step op (h, world)).1.outcome = some (.error e)) : e.code ≠ Status.ok := by
  cases hengine : h.engine with
  | none =>
    rw [step_closed hengine] at hfailed
    cases op <;> cases hfailed <;> decide
  | some engine =>
    have htruthful (call : Engine.Op) := TruthfulEngine.code_ne_ok (ε := ε) call (engine, world)
    cases op with
    | processFloat direction frame declared =>
      cases hrefusal : h.refusal direction frame.length declared with
      | some e' =>
        rw [step_processFloat_of_refused hrefusal] at hfailed
        cases hfailed
        exact code_ne_ok_of_refusal hrefusal
      | none =>
        rw [step_processFloat_of_accepted hscratch hengine hrefusal] at hfailed
        rw [passFloat, Reply.outcome, result_settle] at hfailed
        refine code_ne_ok_of_mapError ?_ (Option.some.inj hfailed)
        intro e' hresult
        exact htruthful (.processFloat direction _) e' (congrArg some hresult)
    | processPcm direction frame declared =>
      cases hrefusal : h.refusal direction frame.length declared with
      | some e' =>
        rw [step_processPcm_of_refused hrefusal] at hfailed
        cases hfailed
        exact code_ne_ok_of_refusal hrefusal
      | none =>
        rw [step_processPcm_of_accepted hengine hrefusal] at hfailed
        rw [passPcm, Reply.outcome, result_settle] at hfailed
        refine code_ne_ok_of_mapError ?_ (Option.some.inj hfailed)
        intro e' hresult
        exact htruthful (.processPcm direction frame) e' (congrArg some hresult)
    | reset =>
      simp only [step, reset, hengine, Reply.outcome] at hfailed
      refine code_ne_ok_of_mapError ?_ (Option.some.inj hfailed)
      intro e' hresult
      exact htruthful .reset e' (congrArg some hresult)
    | applyConfig config =>
      rcases hcall : Engine.applyConfig config engine world with ⟨result, engine', world'⟩
      simp only [step, applyConfig, hengine, hcall] at hfailed
      cases result with
      | error e' =>
        cases hfailed
        refine htruthful (.applyConfig config) e' ?_
        simp only [Engine.step, hcall, Engine.Reply.outcome]
      | ok _ => cases hfailed
    | destroy => cases hfailed
    | setStreamDelay delay => cases hfailed
    | setAnalogLevel level => cases hfailed
    | setOutputMuted muted => cases hfailed
    | setKeyPressed pressed => cases hfailed
    | streamDelayMs => cases hfailed
    | recommendedLevel => cases hfailed

end Handle

end VoiceProcessing
