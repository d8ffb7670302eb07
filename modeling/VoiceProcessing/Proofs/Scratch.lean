import VoiceProcessing.Proofs.NativeCalls
import VoiceProcessing.Proofs.Recording

/-!
# Nothing leaks through the scratch buffers

Frames pass through buffers that a handle keeps between calls, and both directions share them. Two
handles that differ only in what earlier frames have left there, or in how long or how many these
buffers are, cannot be told apart by any list of calls: neither by their answers, nor by the
samples that the engine is shown, nor by what can be seen of them afterwards.

It is only assumed that there is a buffer for every channel of either stream.
-/

namespace VoiceProcessing

variable {ε ω : Type}

namespace Handle

/-- Two handles in the same world of which nothing but the scratch buffers may differ. -/
structure AgreeBesidesScratch (s t : Handle ε × ω) : Prop where
  engine : s.1.engine = t.1.engine
  capture : s.1.capture = t.1.capture
  render : s.1.render = t.1.render
  streamDelay : s.1.streamDelay = t.1.streamDelay
  statistics : s.1.statistics = t.1.statistics
  world : s.2 = t.2

/-- Handles agree with those that they become when their scratch is replaced. -/
theorem agree_of_scratch (h : Handle ε) (channels : List (List Binary32)) (samples : List Int16)
    (world : ω) : AgreeBesidesScratch (h, world) ({ h with channels, samples }, world) :=
  ⟨rfl, rfl, rfl, rfl, rfl, rfl⟩

/-- Frames that were answered alike, by handles that agree afterwards. -/
def AnswerAlike {F : Type} (x y : Except Error Unit × F × Handle ε × ω) : Prop :=
  x.1 = y.1 ∧ x.2.1 = y.2.1 ∧ AgreeBesidesScratch x.2.2 y.2.2

namespace AgreeBesidesScratch

variable {s t : Handle ε × ω}

/-- Replacing scratch is the only way for handles to agree. -/
theorem exists_scratch (hagree : AgreeBesidesScratch s t) :
    ∃ channels samples, t = ({ s.1 with channels, samples }, s.2) := by
  obtain ⟨⟨engine, capture, render, channels, samples, delay, snapshot⟩, world⟩ := t
  obtain ⟨⟨_, _, _, _, _, _, _⟩, _⟩ := s
  obtain ⟨rfl, rfl, rfl, rfl, rfl, rfl⟩ := hagree
  exact ⟨channels, samples, rfl⟩

/-- The streams have the same formats. -/
theorem format (hagree : AgreeBesidesScratch s t) : s.1.format = t.1.format := by
  funext direction
  cases direction with
  | capture => exact hagree.capture
  | render => exact hagree.render

/-- The same frames are refused, for the same reasons. -/
theorem refusal (hagree : AgreeBesidesScratch s t) : s.1.refusal = t.1.refusal := by
  funext direction length declared
  rw [Handle.refusal, Handle.refusal, isClosed, isClosed, hagree.engine, hagree.format]

/-- Recorded engines tell no more. -/
theorem recordedWith (hagree : AgreeBesidesScratch s t) (calls : List Engine.Op) :
    AgreeBesidesScratch (Handle.recordedWith calls s) (Handle.recordedWith calls t) := by
  obtain ⟨channels, samples, rfl⟩ := hagree.exists_scratch
  exact ⟨rfl, rfl, rfl, rfl, rfl, rfl⟩

variable [Engine ε ω]

/-- What comes of a frame does not depend on what has become of the scratch. -/
theorem settle {F : Type} {h h' : Handle ε} {world : ω}
    (hagree : AgreeBesidesScratch (h, world) (h', world)) (direction : Direction) (frame out : F)
    (result : Except EngineError Unit) (u : ε × ω) :
    AnswerAlike (h.settle direction frame out result u)
      (h'.settle direction frame out result u) := by
  obtain ⟨channels, samples, hsame⟩ := hagree.exists_scratch
  cases hsame
  cases result with
  | error e => exact ⟨rfl, rfl, agree_of_scratch _ channels samples _⟩
  | ok _ => cases direction <;> exact ⟨rfl, rfl, agree_of_scratch _ channels samples _⟩

/-- An accepted frame of numbers is shown to the engine as its own channels. -/
theorem passFloat {h h' : Handle ε} {world : ω}
    (hagree : AgreeBesidesScratch (h, world) (h', world)) (direction : Direction)
    (frame : List Binary32) (engine : ε) :
    AnswerAlike (h.passFloat direction frame engine world)
      (h'.passFloat direction frame engine world) := by
  have hformat : h'.format direction = h.format direction :=
    (congrFun hagree.format direction).symm
  obtain ⟨channels, samples, hsame⟩ := hagree.exists_scratch
  cases hsame
  rw [Handle.passFloat, Handle.passFloat, hformat]
  exact (agree_of_scratch _ _ samples world).settle direction frame _ _ _

/-- An accepted frame of 16-bit samples is shown to the engine as it is. -/
theorem passPcm {h h' : Handle ε} {world : ω}
    (hagree : AgreeBesidesScratch (h, world) (h', world)) (direction : Direction)
    (frame : List Int16) (engine : ε) :
    AnswerAlike (h.passPcm direction frame engine world)
      (h'.passPcm direction frame engine world) := by
  obtain ⟨channels, samples, hsame⟩ := hagree.exists_scratch
  cases hsame
  exact (agree_of_scratch _ channels _ world).settle direction frame _ _ _

/-- Each call gives the same answer on handles that agree, and they agree after it. -/
theorem step [LawfulEngine ε ω] (hagree : AgreeBesidesScratch s t) (hs : s.1.HasScratch)
    (ht : t.1.HasScratch) (op : Op) :
    (Handle.step op s).1 = (Handle.step op t).1 ∧
      AgreeBesidesScratch (Handle.step op s).2 (Handle.step op t).2 := by
  obtain ⟨h, world⟩ := s
  obtain ⟨h', world'⟩ := t
  obtain rfl : world = world' := hagree.world
  have hrefusal : h.refusal = h'.refusal := hagree.refusal
  cases hengine : h.engine with
  | none =>
    have hengine' : h'.engine = none := hagree.engine.symm.trans hengine
    rw [step_closed hengine, step_closed hengine']
    exact ⟨rfl, hagree⟩
  | some engine =>
    have hengine' : h'.engine = some engine := hagree.engine.symm.trans hengine
    cases op with
    | processFloat direction frame declared =>
      cases hrefused : h.refusal direction frame.length declared with
      | some e =>
        rw [step_processFloat_of_refused hrefused,
          step_processFloat_of_refused (by rw [← hrefusal, hrefused])]
        exact ⟨rfl, hagree⟩
      | none =>
        rw [step_processFloat_of_accepted hs hengine hrefused,
          step_processFloat_of_accepted ht hengine' (by rw [← hrefusal, hrefused])]
        obtain ⟨hresult, hframe, hafter⟩ := hagree.passFloat direction frame engine
        exact ⟨by simp only [hresult, hframe], hafter⟩
    | processPcm direction frame declared =>
      cases hrefused : h.refusal direction frame.length declared with
      | some e =>
        rw [step_processPcm_of_refused hrefused,
          step_processPcm_of_refused (by rw [← hrefusal, hrefused])]
        exact ⟨rfl, hagree⟩
      | none =>
        rw [step_processPcm_of_accepted hengine hrefused,
          step_processPcm_of_accepted hengine' (by rw [← hrefusal, hrefused])]
        obtain ⟨hresult, hframe, hafter⟩ := hagree.passPcm direction frame engine
        exact ⟨by simp only [hresult, hframe], hafter⟩
    | applyConfig config =>
      obtain ⟨channels, samples, hsame⟩ := hagree.exists_scratch
      cases hsame
      rcases hcall : Engine.applyConfig config engine world with ⟨result, engine', world'⟩
      simp only [Handle.step, Handle.applyConfig, hengine, hcall]
      cases result <;> exact ⟨rfl, agree_of_scratch _ channels samples _⟩
    | destroy | reset | setStreamDelay _ | setAnalogLevel _ | setOutputMuted _ | setKeyPressed _
    | streamDelayMs | recommendedLevel =>
      obtain ⟨channels, samples, hsame⟩ := hagree.exists_scratch
      cases hsame
      simp only [Handle.step, Handle.destroy, Handle.reset, Handle.setStreamDelay,
        Handle.setAnalogLevel, Handle.setOutputMuted, Handle.setKeyPressed, Handle.hint,
        Handle.streamDelayMs, Handle.recommendedLevel, Handle.read, hengine]
      exact ⟨trivial, agree_of_scratch _ channels samples _⟩

/-- So does each list of calls. -/
theorem run [LawfulEngine ε ω] (hagree : AgreeBesidesScratch s t) (hs : s.1.HasScratch)
    (ht : t.1.HasScratch) (ops : List Op) :
    (Handle.run ops s).1 = (Handle.run ops t).1 ∧
      AgreeBesidesScratch (Handle.run ops s).2 (Handle.run ops t).2 := by
  have hagrees (op : Op) (s t : Handle ε × ω) :
      (AgreeBesidesScratch s t ∧ s.1.HasScratch ∧ t.1.HasScratch) →
      (Handle.step op s).1 = (Handle.step op t).1 ∧
        AgreeBesidesScratch (Handle.step op s).2 (Handle.step op t).2 ∧
        (Handle.step op s).2.1.HasScratch ∧ (Handle.step op t).2.1.HasScratch := by
    rintro ⟨hagree, hs, ht⟩
    obtain ⟨hreply, hafter⟩ := hagree.step hs ht op
    exact ⟨hreply, hafter, hs.of_geometry (geometry_step hs op s.2),
      ht.of_geometry (geometry_step ht op t.2)⟩
  obtain ⟨hreplies, hafter, -⟩ := History.run_agrees hagrees ops ⟨hagree, hs, ht⟩
  exact ⟨hreplies, hafter⟩

end AgreeBesidesScratch

variable [Engine ε ω] [LawfulEngine ε ω]

/-- Handles that agree ask the same of their engines, with the same samples. -/
theorem AgreeBesidesScratch.callsMade {s t : Handle ε × ω} (hagree : AgreeBesidesScratch s t)
    (hs : s.1.HasScratch) (ht : t.1.HasScratch) (ops : List Op) :
    Handle.callsMade ops s = Handle.callsMade ops t := by
  obtain ⟨-, hafter⟩ := (hagree.recordedWith []).run hs.recorded ht.recorded ops
  exact congrArg Recording.calls hafter.world

omit [Engine ε ω] [LawfulEngine ε ω] in
/-- A handle with the scratch that it was created with. -/
def withNewScratch (h : Handle ε) : Handle ε :=
  { h with
    channels := List.replicate (max h.capture.channelCount h.render.channelCount)
      (List.replicate samplesPerFrame 0)
    samples := [] }

omit [Engine ε ω] [LawfulEngine ε ω] in
/-- New scratch is enough. -/
theorem hasScratch_withNewScratch (h : Handle ε) : h.withNewScratch.HasScratch := by
  intro direction
  rw [withNewScratch, List.length_replicate]
  cases direction with
  | capture => exact Nat.le_max_left _ _
  | render => exact Nat.le_max_right _ _

/-- Whatever frames a handle has seen, in whichever direction and with whatever success, it behaves
from then on as it would if its scratch were new. -/
theorem Reachable.run_withNewScratch {h : Handle ε} {world : ω} (hreachable : Reachable (h, world))
    (ops : List Op) :
    (run ops (h, world)).1 = (run ops (h.withNewScratch, world)).1 ∧
      callsMade ops (h, world) = callsMade ops (h.withNewScratch, world) := by
  have hagree : AgreeBesidesScratch (h, world) (h.withNewScratch, world) :=
    agree_of_scratch h _ _ world
  have hnew := hasScratch_withNewScratch h
  exact ⟨(hagree.run hreachable.hasScratch hnew ops).1,
    hagree.callsMade hreachable.hasScratch hnew ops⟩

end Handle

/-- Handles that differ in nothing but their scratch answer every list of calls alike, with the same
frames, show their engines the same calls with the same samples, and still differ in nothing else
afterwards. -/
theorem scratch_leaksNothing [Engine ε ω] [LawfulEngine ε ω] {s t : Handle ε × ω}
    (hagree : Handle.AgreeBesidesScratch s t) (hs : s.1.HasScratch) (ht : t.1.HasScratch)
    (ops : List Handle.Op) :
    (Handle.run ops s).1 = (Handle.run ops t).1 ∧
      Handle.callsMade ops s = Handle.callsMade ops t ∧
      Handle.AgreeBesidesScratch (Handle.run ops s).2 (Handle.run ops t).2 := by
  obtain ⟨hreplies, hafter⟩ := hagree.run hs ht ops
  exact ⟨hreplies, hagree.callsMade hs ht ops, hafter⟩

open Native in
/-- A new stereo handle is compared with one whose scratch is larger than it needs, unequal in its
buffers and full of other samples. Frames of both directions and kinds come back from both alike,
among them one of a wrong length, and one after the end. -/
theorem scratch_leaksNothing_of_stale :
    ∃ (h : Handle (NativeEngine (Library.reversing Status.ok))) (s : Session Unit Unit),
      Handle.create { captureChannels := 2 } ⟨(), []⟩ = (.ok h, s) ∧
      let stale := { h with channels := [[1, 2, 3], [], [4]], samples := [5, 6] }
      let capture : List Binary32 := (List.range 960).map Binary.ofBits
      let ops : List Handle.Op :=
        [.processFloat .capture capture 2, .processPcm .render (List.replicate 480 7) 1,
          .processFloat .capture [8] 2, .processFloat .render (List.replicate 480 9) 1, .destroy,
          .processFloat .capture capture 2]
      (Handle.run ops (h, s)).1 = (Handle.run ops (stale, s)).1 ∧
        Handle.callsMade ops (h, s) = Handle.callsMade ops (stale, s) ∧
        Handle.AgreeBesidesScratch (Handle.run ops (h, s)).2 (Handle.run ops (stale, s)).2 := by
  obtain ⟨h, s, hcreate, hcapture, hrender⟩ :
      ∃ (h : Handle (NativeEngine (Library.reversing Status.ok))) (s : Session Unit Unit),
        Handle.create { captureChannels := 2 } ⟨(), []⟩ = (.ok h, s) ∧
        (h.format .capture).channelCount = 2 ∧ (h.format .render).channelCount = 1 :=
    ⟨_, _, rfl, rfl, rfl⟩
  have hscratch : h.HasScratch := (Handle.ready_of_create hcreate).1
  have hstale : { h with channels := [[1, 2, 3], [], [4]], samples := [5, 6] }.HasScratch := by
    intro direction
    cases direction with
    | capture => exact Nat.le_trans (Nat.le_of_eq hcapture) (Nat.le_succ 2)
    | render => exact Nat.le_trans (Nat.le_of_eq hrender) (Nat.le_add_right 1 2)
  exact ⟨h, s, hcreate,
    scratch_leaksNothing (Handle.agree_of_scratch h _ _ s) hscratch hstale _⟩

end VoiceProcessing
