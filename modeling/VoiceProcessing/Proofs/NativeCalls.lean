import VoiceProcessing.Engine.Basic
import VoiceProcessing.History
import VoiceProcessing.Native.Engine

/-!
# What the native engine asks of the library

Every operation of the native engine makes at most one call, on its own instance, and changes
nothing in the engine itself. The library is arbitrary, so all that is known of a session is which
calls were logged, and in which order. One library is described completely, `Library.reversing`, to
see at work what is stated of all.
-/

namespace VoiceProcessing.Native

variable {σ ι : Type}

/-- A call on the given instance that does not destroy it. -/
def Call.Uses (ref : ι) : Call ι → Prop
  | .create _ | .destroy _ => False
  | .reset r _ _ | .applyConfig r _ | .processFloat r _ _ _ _ | .processPcm r _ _ _ _ _ _
  | .statistics r | .setDelay r _ | .delay r | .setAnalogLevel r _ | .recommendedLevel r
  | .setOutputMuted r _ | .setKeyPressed r _ => r = ref

/-- A call is logged. -/
@[simp] theorem Library.log_call (library : Library σ ι) (call : Call ι) (s : Session σ ι) :
    (library.call call s).2.log = s.log ++ [call] := rfl

/-- A library that grants every instance and reverses all samples it is lent, but answers frames
with the given status. -/
def Library.reversing (status : Status) : Library Unit Unit where
  answer
    | .create _, s => (some (), s)
    | .destroy _, s => ((), s)
    | .reset _ _ _, s => (Status.ok, s)
    | .applyConfig _ _, s => (Status.ok, s)
    | .processFloat _ _ source _ _, s =>
      ((status, ⟨source.map List.reverse, by simp [Function.comp_def]⟩), s)
    | .processPcm _ _ source _ _ _ _, s => ((status, ⟨source.reverse, List.length_reverse⟩), s)
    | .statistics _, s => ((Status.ok, {}), s)
    | .setDelay _ _, s => (Status.ok, s)
    | .delay _, s => (0, s)
    | .setAnalogLevel _ _, s => (Status.ok, s)
    | .recommendedLevel _, s => (0, s)
    | .setOutputMuted _ _, s => ((), s)
    | .setKeyPressed _ _, s => ((), s)

namespace NativeEngine

variable {library : Library σ ι}

/-- Every operation leaves the engine as it was and at most uses its instance. -/
theorem step_uses (op : Engine.Op) (e : NativeEngine library) (s : Session σ ι) :
    (Engine.step op (e, s)).2.1 = e ∧
      ∃ uses, (Engine.step op (e, s)).2.2.log = s.log ++ uses ∧ ∀ call ∈ uses, call.Uses e.ref := by
  have hone (call : Call ι) (huses : call.Uses e.ref) :
      ∃ uses, (library.call call s).2.log = s.log ++ uses ∧ ∀ call ∈ uses, call.Uses e.ref :=
    ⟨[call], rfl, fun c hc => List.mem_singleton.mp hc ▸ huses⟩
  cases op with
  | reset => exact ⟨rfl, hone (.reset e.ref e.capture e.render) rfl⟩
  | applyConfig config => exact ⟨rfl, hone (.applyConfig e.ref (.ofConfig config)) rfl⟩
  | processFloat direction channels =>
    simp only [Engine.step, Engine.processFloat, processFloat]
    cases checkChannels (e.format direction) channels with
    | error err => exact ⟨rfl, [], (List.append_nil _).symm, List.forall_mem_nil _⟩
    | ok _ =>
      exact ⟨rfl, hone
        (.processFloat e.ref direction channels (e.format direction) (e.format direction)) rfl⟩
  | processPcm direction samples =>
    simp only [Engine.step, Engine.processPcm, processPcm]
    cases checkSamples (e.format direction) samples with
    | error err => exact ⟨rfl, [], (List.append_nil _).symm, List.forall_mem_nil _⟩
    | ok _ =>
      exact ⟨rfl, hone (.processPcm e.ref direction samples (Int32.ofNat samples.length)
        (e.format direction) (e.format direction) (Int32.ofNat samples.length)) rfl⟩
  | statistics => exact ⟨rfl, hone (.statistics e.ref) rfl⟩
  | hint hint =>
    cases hint with
    | delay ms => exact ⟨rfl, hone (.setDelay e.ref ms) rfl⟩
    | analogLevel level => exact ⟨rfl, hone (.setAnalogLevel e.ref level) rfl⟩
    | outputMuted muted => exact ⟨rfl, hone (.setOutputMuted e.ref muted) rfl⟩
    | keyPressed pressed => exact ⟨rfl, hone (.setKeyPressed e.ref pressed) rfl⟩
  | delayMs => exact ⟨rfl, hone (.delay e.ref) rfl⟩
  | recommendedLevel => exact ⟨rfl, hone (.recommendedLevel e.ref) rfl⟩

/-- So does every list of operations. -/
theorem after_uses (ops : List Engine.Op) (e : NativeEngine library) (s : Session σ ι) :
    (History.after Engine.step ops (e, s)).1 = e ∧
      ∃ uses, (History.after Engine.step ops (e, s)).2.log = s.log ++ uses ∧
        ∀ call ∈ uses, call.Uses e.ref := by
  induction ops generalizing s with
  | nil => exact ⟨rfl, [], (List.append_nil _).symm, List.forall_mem_nil _⟩
  | cons op ops ih =>
    obtain ⟨hengine, first, hfirst, husesFirst⟩ := step_uses op e s
    obtain ⟨hrest, later, hlater, husesLater⟩ := ih (Engine.step op (e, s)).2.2
    have hstep : (Engine.step op (e, s)).2 = (e, (Engine.step op (e, s)).2.2) :=
      Prod.ext hengine rfl
    rw [History.after_cons, hstep]
    refine ⟨hrest, first ++ later, ?_, ?_⟩
    · rw [hlater, hfirst, List.append_assoc]
    · intro call hcall
      exact (List.mem_append.mp hcall).elim (husesFirst call) (husesLater call)

/-- Without an instance, creation fails and has made one call. -/
theorem create_of_none {config : Config} {s : Session σ ι}
    (hnone : (library.answer (.create (.ofConfig config)) s.state).1 = none)
    (capture render : StreamFormat) :
    ∃ s', Engine.create (ε := NativeEngine library) config capture render s =
        (.error ⟨Status.internal⟩, s') ∧
      s'.log = s.log ++ [.create (.ofConfig config)] := by
  rcases hcall : library.call (.create (.ofConfig config)) s with ⟨answer, s'⟩
  have hanswer : answer = none := (congrArg Prod.fst hcall).symm.trans hnone
  have hlog : s'.log = s.log ++ [.create (.ofConfig config)] :=
    congrArg (fun called => called.2.log) hcall.symm
  subst hanswer
  exact ⟨s', by simp only [Engine.create, create, hcall], hlog⟩

/-- With an instance, creation initialises it, and either keeps it or destroys it and fails with the
status of the initialisation. -/
theorem create_of_some {config : Config} {s : Session σ ι} {ref : ι}
    (hsome : (library.answer (.create (.ofConfig config)) s.state).1 = some ref)
    (capture render : StreamFormat) :
    let made := library.call (.create (.ofConfig config)) s
    let initialised := library.call (.reset ref (.ofStream capture) (.ofStream render)) made.2
    Engine.create (ε := NativeEngine library) config capture render s =
      if initialised.1 = Status.ok then
        (.ok ⟨ref, .ofStream capture, .ofStream render⟩, initialised.2)
      else (.error ⟨initialised.1⟩, (library.call (.destroy ref) initialised.2).2) := by
  rcases hcall : library.call (.create (.ofConfig config)) s with ⟨answer, s'⟩
  have hanswer : answer = some ref := (congrArg Prod.fst hcall).symm.trans hsome
  subst hanswer
  rcases hreset : library.call (.reset ref (.ofStream capture) (.ofStream render)) s' with
    ⟨status, s''⟩
  by_cases hstatus : status = Status.ok
  · simp only [Engine.create, create, hcall, hreset, checkStatus, if_pos hstatus]
  · simp only [Engine.create, create, hcall, hreset, checkStatus, if_neg hstatus]

end NativeEngine

end VoiceProcessing.Native
