import VoiceProcessing.Proofs.ProcessorRefinement

/-!
# Engines that no call tells apart

An engine may keep what none of its operations ever reads again. Two engines that differ only there
answer every operation alike, in the same world, and differ only there afterwards. It follows that
handles on such engines answer every list of calls alike and cause the same to happen in the world,
and so do processors, even if they remember different configurations.
-/

namespace VoiceProcessing

variable {ε ω : Type} [Engine ε ω]

/-- Engines in this relation, used in the same world, are not told apart by any operation: both
give the same answer and leave the same world, and they are in the relation afterwards. -/
structure Engine.Indistinct (R : ε → ε → Prop) : Prop where
  step {e e' : ε} (hrelated : R e e') (op : Engine.Op) (world : ω) :
    (Engine.step op (e, world)).1 = (Engine.step op (e', world)).1 ∧
      R (Engine.step op (e, world)).2.1 (Engine.step op (e', world)).2.1 ∧
      (Engine.step op (e, world)).2.2 = (Engine.step op (e', world)).2.2
  destroy {e e' : ε} (hrelated : R e e') (world : ω) :
    Engine.destroy e world = Engine.destroy e' world

/-- No operation tells an engine from itself. -/
theorem Engine.indistinct_eq : Engine.Indistinct (ε := ε) Eq where
  step := by
    rintro e _ rfl op world
    exact ⟨rfl, rfl, rfl⟩
  destroy := by
    rintro e _ rfl world
    rfl

namespace Handle

/-- The answer of a handle that passes on what its engine has answered. -/
def relayed : Engine.Reply → Reply
  | .result result => .result (result.mapError Error.ofEngine)
  | .reading value => .reading (some value)
  | .done | .channels _ _ | .samples _ _ | .statistics _ => .done

/-- A call that is merely passed on gets the engine's answer. -/
theorem reply_passedOn {h : Handle ε} {engine : ε} (hopen : h.engine = some engine) {op : Op}
    {call : Engine.Op} (hpassed : op.passedOn = some call) (world : ω) :
    (step op (h, world)).1 = relayed (Engine.step call (engine, world)).1 := by
  cases op with
  | reset | setAnalogLevel _ | setOutputMuted _ | setKeyPressed _ | streamDelayMs
  | recommendedLevel =>
    cases hpassed
    simp only [step, reset, setAnalogLevel, setOutputMuted, setKeyPressed, streamDelayMs,
      recommendedLevel, hint, read, hopen, Engine.step, relayed]
  | _ => cases hpassed

omit [Engine ε ω] in
/-- Handles in the same world of which nothing may differ but the engines, and these only as far as
the relation allows. -/
structure AlikeBy (R : ε → ε → Prop) (s t : Handle ε × ω) : Prop where
  engine : Option.Rel R s.1.engine t.1.engine
  capture : s.1.capture = t.1.capture
  render : s.1.render = t.1.render
  channels : s.1.channels = t.1.channels
  samples : s.1.samples = t.1.samples
  streamDelay : s.1.streamDelay = t.1.streamDelay
  statistics : s.1.statistics = t.1.statistics
  world : s.2 = t.2

variable {R : ε → ε → Prop}

omit [Engine ε ω] in
/-- Frames that were answered alike, by handles that are alike afterwards. -/
def AnsweredBy (R : ε → ε → Prop) {F : Type} (x y : Except Error Unit × F × Handle ε × ω) : Prop :=
  x.1 = y.1 ∧ x.2.1 = y.2.1 ∧ AlikeBy R x.2.2 y.2.2

namespace AlikeBy

variable {s t : Handle ε × ω}

omit [Engine ε ω] in
/-- There is no other way to be alike. -/
theorem exists_engine (halike : AlikeBy R s t) :
    ∃ engine, Option.Rel R s.1.engine engine ∧ t = ({ s.1 with engine }, s.2) := by
  obtain ⟨⟨engine, capture, render, channels, samples, delay, snapshot⟩, world⟩ := t
  obtain ⟨⟨_, _, _, _, _, _, _⟩, _⟩ := s
  obtain ⟨hrelated, rfl, rfl, rfl, rfl, rfl, rfl, rfl⟩ := halike
  exact ⟨engine, hrelated, rfl⟩

omit [Engine ε ω] in
/-- The streams have the same formats. -/
theorem format (halike : AlikeBy R s t) : s.1.format = t.1.format := by
  funext direction
  cases direction with
  | capture => exact halike.capture
  | render => exact halike.render

omit [Engine ε ω] in
/-- Both are open or both are closed. -/
theorem isClosed (halike : AlikeBy R s t) : s.1.isClosed = t.1.isClosed := by
  have hrelated := halike.engine
  unfold Handle.isClosed
  generalize s.1.engine = engine at hrelated ⊢
  generalize t.1.engine = engine' at hrelated ⊢
  cases hrelated <;> rfl

omit [Engine ε ω] in
/-- The same frames are refused, for the same reasons. -/
theorem refusal (halike : AlikeBy R s t) : s.1.refusal = t.1.refusal := by
  funext direction length declared
  rw [Handle.refusal, Handle.refusal, halike.isClosed, halike.format]

omit [Engine ε ω] in
/-- Both have scratch for every channel if one has. -/
theorem hasScratch (halike : AlikeBy R s t) (hscratch : s.1.HasScratch) : t.1.HasScratch := by
  intro direction
  rw [← halike.format, ← halike.channels]
  exact hscratch direction

/-- What comes of a frame does not tell related engines apart. -/
theorem settle (hR : Engine.Indistinct R) {F : Type} (h : Handle ε) (engine : Option ε)
    (direction : Direction) (frame out : F) (result : Except EngineError Unit) {u v : ε × ω}
    (hrelated : R u.1 v.1) (hworld : u.2 = v.2) :
    AnsweredBy R (h.settle direction frame out result u)
      ({ h with engine }.settle direction frame out result v) := by
  obtain ⟨e, world⟩ := u
  obtain ⟨e', world'⟩ := v
  obtain rfl : world = world' := hworld
  cases result with
  | error _ => exact ⟨rfl, rfl, ⟨.some hrelated, rfl, rfl, rfl, rfl, rfl, rfl, rfl⟩⟩
  | ok _ =>
    cases direction with
    | render => exact ⟨rfl, rfl, ⟨.some hrelated, rfl, rfl, rfl, rfl, rfl, rfl, rfl⟩⟩
    | capture =>
      obtain ⟨hreply, hafter, hworld⟩ := hR.step hrelated .statistics world
      have hsnapshot := congrArg EngineStats.flatten (Engine.Reply.statistics.inj hreply)
      exact ⟨rfl, rfl, ⟨.some hafter, rfl, rfl, rfl, rfl, rfl, hsnapshot, hworld⟩⟩

/-- An accepted frame of numbers does not tell related engines apart. -/
theorem passFloat (hR : Engine.Indistinct R) {e e' : ε} (hrelated : R e e') (h : Handle ε)
    (engine : Option ε) (direction : Direction) (frame : List Binary32) (world : ω) :
    AnsweredBy R (h.passFloat direction frame e world)
      ({ h with engine }.passFloat direction frame e' world) := by
  have hformat : { h with engine }.format direction = h.format direction := by
    cases direction <;> rfl
  let channels := split (h.format direction).channelCount frame
  obtain ⟨hreply, hafter, hworld⟩ := hR.step hrelated (.processFloat direction channels) world
  rcases hcall : Engine.processFloat direction channels e world with ⟨result, out, u⟩
  rcases hcall' : Engine.processFloat direction channels e' world with ⟨result', out', v⟩
  simp only [Engine.step, hcall, hcall'] at hreply hafter hworld
  cases hreply
  simp only [Handle.passFloat, hformat]
  rw [hcall, hcall']
  exact settle hR _ engine direction frame _ result hafter hworld

/-- An accepted frame of 16-bit samples does not tell related engines apart. -/
theorem passPcm (hR : Engine.Indistinct R) {e e' : ε} (hrelated : R e e') (h : Handle ε)
    (engine : Option ε) (direction : Direction) (frame : List Int16) (world : ω) :
    AnsweredBy R (h.passPcm direction frame e world)
      ({ h with engine }.passPcm direction frame e' world) := by
  obtain ⟨hreply, hafter, hworld⟩ := hR.step hrelated (.processPcm direction frame) world
  rcases hcall : Engine.processPcm direction frame e world with ⟨result, out, u⟩
  rcases hcall' : Engine.processPcm direction frame e' world with ⟨result', out', v⟩
  simp only [Engine.step, hcall, hcall'] at hreply hafter hworld
  cases hreply
  simp only [Handle.passPcm]
  rw [hcall, hcall']
  exact settle hR _ engine direction frame _ result hafter hworld

/-- Neither does a configuration, a delay that goes with it, or any other call: each gives the same
answer on handles that are alike, and they are alike after it. -/
theorem step [LawfulEngine ε ω] (hR : Engine.Indistinct R) (halike : AlikeBy R s t)
    (hscratch : s.1.HasScratch) (op : Op) :
    (Handle.step op s).1 = (Handle.step op t).1 ∧
      AlikeBy R (Handle.step op s).2 (Handle.step op t).2 := by
  have hrefusal := halike.refusal
  have hscratch' := halike.hasScratch hscratch
  obtain ⟨h, world⟩ := s
  obtain ⟨engine, hengines, rfl⟩ := halike.exists_engine
  cases hengine : h.engine with
  | none =>
    obtain rfl : engine = none := by
      rw [hengine] at hengines
      cases hengines
      rfl
    rw [step_closed hengine, step_closed rfl]
    exact ⟨rfl, halike⟩
  | some e =>
    obtain ⟨e', hrelated, rfl⟩ : ∃ e', R e e' ∧ engine = some e' := by
      rw [hengine] at hengines
      cases hengines with
      | some hrelated => exact ⟨_, hrelated, rfl⟩
    cases op with
    | processFloat direction frame declared =>
      cases hrefused : h.refusal direction frame.length declared with
      | some error =>
        rw [step_processFloat_of_refused hrefused,
          step_processFloat_of_refused (by rw [← hrefusal, hrefused])]
        exact ⟨rfl, halike⟩
      | none =>
        rw [step_processFloat_of_accepted hscratch hengine hrefused,
          step_processFloat_of_accepted hscratch' rfl (by rw [← hrefusal, hrefused])]
        obtain ⟨hresult, hframe, hafter⟩ := passFloat hR hrelated h (some e') direction frame world
        exact ⟨by simp only [hresult, hframe], hafter⟩
    | processPcm direction frame declared =>
      cases hrefused : h.refusal direction frame.length declared with
      | some error =>
        rw [step_processPcm_of_refused hrefused,
          step_processPcm_of_refused (by rw [← hrefusal, hrefused])]
        exact ⟨rfl, halike⟩
      | none =>
        rw [step_processPcm_of_accepted hengine hrefused,
          step_processPcm_of_accepted rfl (by rw [← hrefusal, hrefused])]
        obtain ⟨hresult, hframe, hafter⟩ := passPcm hR hrelated h (some e') direction frame world
        exact ⟨by simp only [hresult, hframe], hafter⟩
    | applyConfig config =>
      obtain ⟨hreply, hafter, hworld⟩ := hR.step hrelated (.applyConfig config) world
      rcases hcall : Engine.applyConfig config e world with ⟨result, u⟩
      rcases hcall' : Engine.applyConfig config e' world with ⟨result', v⟩
      simp only [Engine.step, hcall, hcall'] at hreply hafter hworld
      cases hreply
      obtain ⟨e₁, world₁⟩ := u
      obtain ⟨e₁', world₁'⟩ := v
      obtain rfl : world₁ = world₁' := hworld
      simp only [Handle.step, Handle.applyConfig, hengine, hcall, hcall']
      cases result with
      | error _ => exact ⟨rfl, ⟨.some hafter, rfl, rfl, rfl, rfl, rfl, rfl, rfl⟩⟩
      | ok _ =>
        obtain ⟨-, hafter, hworld⟩ :=
          hR.step hafter (.hint (.delay config.streamDelay.hintMs)) world₁
        exact ⟨rfl, ⟨.some hafter, rfl, rfl, rfl, rfl, rfl, rfl, hworld⟩⟩
    | destroy =>
      rw [step_destroy hengine, step_destroy rfl]
      exact ⟨rfl, ⟨.none, rfl, rfl, rfl, rfl, rfl, rfl, hR.destroy hrelated world⟩⟩
    | setStreamDelay delay =>
      obtain ⟨-, hafter, hworld⟩ := hR.step hrelated (.hint (.delay delay.hintMs)) world
      simp only [Handle.step, Handle.setStreamDelay, hengine]
      exact ⟨trivial, ⟨.some hafter, rfl, rfl, rfl, rfl, rfl, rfl, hworld⟩⟩
    | reset | setAnalogLevel _ | setOutputMuted _ | setKeyPressed _ | streamDelayMs
    | recommendedLevel =>
      obtain ⟨hreply, hafter, hworld⟩ := hR.step hrelated _ world
      refine ⟨?_, ?_⟩
      · rw [reply_passedOn hengine rfl, reply_passedOn rfl rfl, hreply]
      · rw [step_passedOn hengine rfl, step_passedOn rfl rfl]
        exact ⟨.some hafter, rfl, rfl, rfl, rfl, rfl, rfl, hworld⟩

/-- So does each list of calls. -/
theorem run [LawfulEngine ε ω] (hR : Engine.Indistinct R) (halike : AlikeBy R s t)
    (hscratch : s.1.HasScratch) (ops : List Op) :
    (Handle.run ops s).1 = (Handle.run ops t).1 ∧
      AlikeBy R (Handle.run ops s).2 (Handle.run ops t).2 := by
  have hagrees (op : Op) (s t : Handle ε × ω) : (AlikeBy R s t ∧ s.1.HasScratch) →
      (Handle.step op s).1 = (Handle.step op t).1 ∧
        AlikeBy R (Handle.step op s).2 (Handle.step op t).2 ∧
        (Handle.step op s).2.1.HasScratch := by
    rintro ⟨halike, hscratch⟩
    obtain ⟨hreply, hafter⟩ := halike.step hR hscratch op
    exact ⟨hreply, hafter, hscratch.of_geometry (geometry_step hscratch op s.2)⟩
  obtain ⟨hreplies, hafter, -⟩ := History.run_agrees hagrees ops ⟨halike, hscratch⟩
  exact ⟨hreplies, hafter⟩

end AlikeBy

end Handle

namespace Processor

variable {R : ε → ε → Prop} {C : Config → Config → Prop}

omit [Engine ε ω] in
/-- Processors whose handles are alike and whose configurations are related. -/
structure AlikeBy (R : ε → ε → Prop) (C : Config → Config → Prop) (s t : Processor ε × ω) :
    Prop where
  handle : Handle.AlikeBy R (inner s) (inner t)
  config : C s.1.config t.1.config

namespace AlikeBy

variable [LawfulEngine ε ω] {s t : Processor ε × ω}

/-- Each call gives the same answer on processors that are alike, and they are alike after it, if
configurations are related to themselves. -/
theorem step (hR : Engine.Indistinct R) (hC : ∀ config, C config config)
    (halike : AlikeBy R C s t) (hscratch : s.1.handle.HasScratch) (op : Op) :
    (Processor.step op s).1 = (Processor.step op t).1 ∧
      AlikeBy R C (Processor.step op s).2 (Processor.step op t).2 := by
  obtain ⟨hhandle, hconfig⟩ := halike
  -- Both are called with the same channel counts, which are those of their streams.
  have hcounts (direction : Direction) :
      (s.1.handle.format direction).channelCount = s.1.counts direction := rfl
  have hcounts' (direction : Direction) :
      (t.1.handle.format direction).channelCount = s.1.counts direction :=
    congrArg StreamFormat.channelCount (congrFun hhandle.format.symm direction)
  obtain ⟨hreply, hparts⟩ := step_parts hcounts op s.2
  obtain ⟨hreply', hparts'⟩ := step_parts hcounts' op t.2
  obtain ⟨hcalled, hafter⟩ := hhandle.step hR hscratch (op.onHandle s.1.counts)
  have hclosed : s.1.handle.isClosed = t.1.handle.isClosed := hhandle.isClosed
  have happlied : Handle.appliedConfig (op.onHandle s.1.counts) (inner s) =
      Handle.appliedConfig (op.onHandle s.1.counts) (inner t) := by
    unfold Handle.appliedConfig
    rw [hcalled]
  refine ⟨?_, ?_, ?_⟩
  · rw [hreply, hreply']
    simp only [pairedStep, parts, hclosed]
    exact congrArg (op.answer _) hcalled
  · rw [inner_step hcounts op s.2, inner_step hcounts' op t.2]
    exact hafter
  · have hleft := congrArg (fun parts => parts.1.2) hparts
    have hright := congrArg (fun parts => parts.1.2) hparts'
    refine (congrArg₂ C hleft hright).mpr ?_
    simp only [pairedStep, parts]
    change C ((Handle.appliedConfig _ (inner s)).getD _) ((Handle.appliedConfig _ (inner t)).getD _)
    rw [happlied]
    cases Handle.appliedConfig (op.onHandle s.1.counts) (inner t) with
    | none => exact hconfig
    | some config => exact hC config

/-- So does each list of calls. -/
theorem run (hR : Engine.Indistinct R) (hC : ∀ config, C config config)
    (halike : AlikeBy R C s t) (hscratch : s.1.handle.HasScratch) (ops : List Op) :
    (Processor.run ops s).1 = (Processor.run ops t).1 ∧
      AlikeBy R C (Processor.run ops s).2 (Processor.run ops t).2 := by
  have hagrees (op : Op) (s t : Processor ε × ω) : (AlikeBy R C s t ∧ s.1.handle.HasScratch) →
      (Processor.step op s).1 = (Processor.step op t).1 ∧
        AlikeBy R C (Processor.step op s).2 (Processor.step op t).2 ∧
        (Processor.step op s).2.1.handle.HasScratch := by
    rintro ⟨halike, hscratch⟩
    obtain ⟨hreply, hafter⟩ := halike.step hR hC hscratch op
    have hgeometry := Handle.geometry_step hscratch (op.onHandle s.1.counts) s.2
    have hinner := inner_step (p := s.1) (fun _ => rfl) op s.2
    refine ⟨hreply, hafter, hscratch.of_geometry (Eq.trans ?_ hgeometry)⟩
    exact congrArg (fun t => t.1.geometry) hinner
  obtain ⟨hreplies, hafter, -⟩ := History.run_agrees hagrees ops ⟨halike, hscratch⟩
  exact ⟨hreplies, hafter⟩

end AlikeBy

end Processor

end VoiceProcessing
