import VoiceProcessing.Proofs.NativeCalls
import VoiceProcessing.Proofs.ProcessorRefinement

/-!
# Closed objects

Once its engine has been given up, a handle or a processor stays as it was at that moment, except
that its snapshot is cleared. Every call is answered at once, before its arguments are looked at,
and nothing is asked of any engine. The world does not change either, so that there is nothing else
that a call could have done.
-/

namespace VoiceProcessing

variable {ε ω : Type} [Engine ε ω]

namespace Handle

/-- What it is for a closed handle, with its world, to be what is left of a handle for good. -/
structure ClosedFor (h : Handle ε) (closed : Handle ε × ω) : Prop where
  /-- Every list of calls gets the answers of a closed handle, and changes nothing. -/
  answers (ops : List Op) : run ops closed = (ops.map Op.closedReply, closed)
  /-- No call asks anything of an engine. -/
  asks (ops : List Op) (op : Op) : engineCalls op (History.after step ops closed) = []
  isClosed : closed.1.isClosed = true
  statistics : closed.1.statistics = {}
  format : closed.1.format = h.format
  streamDelay : closed.1.streamDelay = h.streamDelay

/-- A closed handle accepts no configuration. -/
theorem appliedConfig_of_closed {h : Handle ε} (hclosed : h.engine = none) (op : Op) (world : ω) :
    appliedConfig op (h, world) = none := by
  unfold appliedConfig
  rw [step_closed hclosed]
  cases op <;> rfl

/-- Giving up the engine closes every handle for good. -/
theorem closedFor_destroy [LawfulEngine ε ω] {h : Handle ε} {world : ω}
    (hreachable : Reachable (h, world)) : h.ClosedFor (h.destroy world) := by
  have hengine : (h.destroy world).1.engine = none := engine_destroy h world
  have hlater : Reachable (h.destroy world) := hreachable.later step [.destroy]
  refine ⟨?_, ?_, Option.isNone_iff_eq_none.mpr hengine, hlater.orderly.2 hengine, ?_, ?_⟩
  · exact History.run_of_unchanged step fun op => step_closed hengine op _
  · intro ops op
    rw [after_closed hengine]
    exact engineCalls_of_closed hengine op _
  · unfold destroy
    cases h.engine <;> rfl
  · unfold destroy
    cases h.engine <;> rfl

end Handle

namespace Processor

/-- A processor just made, with the world that its creation left. -/
def Created (s : Processor ε × ω) : Prop :=
  ∃ config world, create config world = (.ok s.1, s.2)

/-- The processors, with their worlds, that callers can bring about. -/
def Reachable (s : Processor ε × ω) : Prop :=
  History.Reachable step Created s

/-- The handle of a reachable processor is reachable. -/
theorem Reachable.inner [LawfulEngine ε ω] {s : Processor ε × ω} (hreachable : Reachable s) :
    Handle.Reachable (inner s) := by
  obtain ⟨⟨p, world⟩, ops, ⟨config, world₀, hmade⟩, rfl⟩ := hreachable
  obtain ⟨h, hcreate, rfl⟩ := exists_of_create hmade
  have hcounts := Handle.channelCount_format_of_create hcreate
  have hscratch := (Handle.ready_of_create hcreate).1
  rw [inner_after hcounts hscratch]
  exact ⟨_, _, ⟨config, world₀, hcreate⟩, rfl⟩

/-- What a call on a closed processor answers. -/
def Op.closedReply : Op → Reply
  | .processCapture _ => .float (.error .closed)
  | .processCapturePcm _ => .pcm (.error .closed)
  | .processRender _ | .processRenderPcm _ | .reset | .applyConfig _ | .setStreamDelay _
  | .setAnalogLevel _ => .result (.error .closed)
  | .close | .setOutputMuted _ | .setKeyPressed _ => .done
  | .streamDelayMs | .recommendedLevel => .reading none

/-- A closed processor answers every call at once and stays as it is, and so does the world. -/
theorem step_closed {p : Processor ε} (hclosed : p.handle.engine = none) (op : Op) (world : ω) :
    step op (p, world) = (op.closedReply, p, world) := by
  have hcounts (direction : Direction) :
      (p.handle.format direction).channelCount = p.counts direction := rfl
  have hisClosed : p.handle.isClosed = true := Option.isNone_iff_eq_none.mpr hclosed
  obtain ⟨hreply, hparts⟩ := step_parts hcounts op world
  simp only [pairedStep, parts, Handle.step_closed hclosed, hisClosed,
    Handle.appliedConfig_of_closed hclosed, Option.getD_none] at hreply hparts
  have hanswer : op.answer true (op.onHandle p.counts).closedReply = op.closedReply := by
    cases op <;> rfl
  rw [hanswer] at hreply
  generalize step op (p, world) = answered at hreply hparts
  obtain ⟨reply, ⟨handle, config⟩, world'⟩ := answered
  cases hparts
  exact Prod.ext hreply rfl

/-- What it is for a closed processor, with its world, to be what is left of a processor for
good. -/
structure ClosedFor (p : Processor ε) (closed : Processor ε × ω) : Prop where
  /-- Every list of calls gets the answers of a closed processor, and changes nothing. -/
  answers (ops : List Op) : run ops closed = (ops.map Op.closedReply, closed)
  /-- No call asks anything of an engine. -/
  asks (ops : List Op) (op : Op) : engineCalls op (History.after step ops closed) = []
  isClosed : closed.1.isClosed = true
  statistics : closed.1.statistics = {}
  format : closed.1.handle.format = p.handle.format
  streamDelay : closed.1.handle.streamDelay = p.handle.streamDelay
  config : closed.1.config = p.config

/-- Closing closes every processor for good. -/
theorem closedFor_close [LawfulEngine ε ω] {p : Processor ε} {world : ω}
    (hreachable : Reachable (p, world)) : p.ClosedFor (p.close world) := by
  have hhandle := Handle.closedFor_destroy hreachable.inner
  have hengine : (p.close world).1.handle.engine = none := Handle.engine_destroy p.handle world
  have hanswers := History.run_of_unchanged step
    fun op => step_closed hengine op (p.close world).2
  refine ⟨hanswers, ?_, hhandle.isClosed, hhandle.statistics, hhandle.format, hhandle.streamDelay,
    rfl⟩
  intro ops op
  have hafter : History.after step ops (p.close world) = p.close world :=
    congrArg Prod.snd (hanswers ops)
  rw [hafter, engineCalls_eq]
  exact Handle.engineCalls_of_closed hengine _ _

end Processor

/-- On every engine, whatever has become of a handle or a processor by the time it is closed, it is
closed for good. -/
theorem closed_staysSilent [LawfulEngine ε ω] :
    (∀ (h : Handle ε) (world : ω), Handle.Reachable (h, world) → h.ClosedFor (h.destroy world)) ∧
    ∀ (p : Processor ε) (world : ω), Processor.Reachable (p, world) →
      p.ClosedFor (p.close world) :=
  ⟨fun _ _ hreachable => Handle.closedFor_destroy hreachable,
    fun _ _ hreachable => Processor.closedFor_close hreachable⟩

open Native in
/-- A handle with a fixed delay is closed, and then called with a frame that fits no stream, closed
again, and told another delay and another configuration. A processor is closed in the same way. -/
theorem closed_staysSilent_of_fixed :
    let config : Config := { echoCanceller := some { streamDelay := .fixed 40 } }
    let handleOps : List Handle.Op :=
      [.processFloat .capture [1, 2, 3] 7, .destroy, .setStreamDelay (.fixed 9), .applyConfig {},
        .streamDelayMs]
    let processorOps : List Processor.Op :=
      [.processRenderPcm [1, 2, 3], .close, .setStreamDelay (.fixed 9), .applyConfig {}]
    ∃ (h : Handle (NativeEngine (Library.reversing Status.ok))) (s : Session Unit Unit),
      Handle.create config ⟨(), []⟩ = (.ok h, s) ∧
      Handle.run handleOps (h.destroy s) =
        ([.float (.error .closed) [1, 2, 3], .done, .done, .result (.error .closed), .reading none],
          h.destroy s) ∧
      (h.destroy s).1.streamDelay = .fixed 40 ∧
      let p : Processor (NativeEngine (Library.reversing Status.ok)) := ⟨h, config⟩
      Processor.run processorOps (p.close s) =
        ([.result (.error .closed), .done, .result (.error .closed), .result (.error .closed)],
          p.close s) ∧
      (p.close s).1.config = config := by
  intro config handleOps processorOps
  obtain ⟨h, s, hcreate, hdelay⟩ :
      ∃ (h : Handle (NativeEngine (Library.reversing Status.ok))) (s : Session Unit Unit),
        Handle.create config ⟨(), []⟩ = (.ok h, s) ∧ h.streamDelay = .fixed 40 := ⟨_, _, rfl, rfl⟩
  have hhandle : Handle.Reachable (h, s) :=
    History.Reachable.of_initial Handle.step ⟨config, _, hcreate⟩
  have hmade : Processor.create config ⟨(), []⟩ =
      (.ok (⟨h, config⟩ : Processor (NativeEngine (Library.reversing Status.ok))), s) := by
    simp only [Processor.create, hcreate]
  have hprocessor : Processor.Reachable
      ((⟨h, config⟩ : Processor (NativeEngine (Library.reversing Status.ok))), s) :=
    History.Reachable.of_initial Processor.step ⟨config, _, hmade⟩
  have hclosed := closed_staysSilent.1 h s hhandle
  have hclosed' := closed_staysSilent.2 _ s hprocessor
  exact ⟨h, s, hcreate, hclosed.answers handleOps, hclosed.streamDelay.trans hdelay,
    hclosed'.answers processorOps, hclosed'.config⟩

end VoiceProcessing
