import VoiceProcessing.Proofs.EchoReport

/-!
# Processors refine handles

A processor is a handle paired with a configuration. Each of its calls is one call on the handle,
with the channel counts that were fixed when the processor was made, and 16-bit frames are converted
sample by sample around the calls for numbers, so that an engine is never shown any. The
configuration is the one accepted last. The bypass engine keeps a configuration of its own, and the
two stay the same as long as there is an engine.
-/

namespace VoiceProcessing

variable {ε ω : Type} [Engine ε ω]

/-- The error in a result, if there is one. -/
def errorOf {A : Type} : Except Error A → Option Error
  | .error e => some e
  | .ok _ => none

/-- What is made of a success does not concern the error. -/
theorem errorOf_map {A B : Type} (f : A → B) (result : Except Error A) :
    errorOf (result.map f) = errorOf result := by
  cases result <;> rfl

/-- Engines know of no declared channel counts. -/
theorem errorOf_ofEngine_ne (result : Except EngineError Unit) (expected actual : Nat) :
    errorOf (result.mapError Error.ofEngine) ≠ some (.channelMismatch expected actual) := by
  cases result <;> nofun

namespace Handle

/-- A frame that is declared to have as many channels as its stream is not refused for them. -/
theorem refusal_ne_channelMismatch (h : Handle ε) (direction : Direction) (length : Nat)
    (expected actual : Nat) :
    h.refusal direction length (h.format direction).channelCount ≠
      some (.channelMismatch expected actual) := by
  unfold refusal
  rw [if_neg (not_not_intro rfl)]
  split
  · nofun
  · split <;> nofun

/-- What comes of an accepted frame of numbers is as long as the frame. -/
theorem length_passFloat (direction : Direction) (frame : List Binary32) (h : Handle ε)
    (engine : ε) (world : ω) :
    (h.passFloat direction frame engine world).2.1.length = frame.length := by
  let answer := Engine.processFloat direction (split (h.format direction).channelCount frame)
    engine world
  have hsettled (result : Except EngineError Unit) (h : Handle ε) :
      (h.settle direction frame (interleave answer.2.1 frame) result answer.2.2).2.1.length =
        frame.length := by
    cases result with
    | error e => rfl
    | ok _ => exact length_interleave _ frame
  exact hsettled answer.1 _

/-- What becomes of a frame of numbers that is declared to have as many channels as its stream: the
call is not aborted, and if it succeeds, the frame was of the right length. -/
theorem processFloat_of_counted [LawfulEngine ε ω] {h : Handle ε} (hscratch : h.HasScratch)
    (direction : Direction) (frame : List Binary32) (world : ω) :
    ∃ result out t,
      h.processFloat direction frame (h.format direction).channelCount world =
        .ok (result, out, t) ∧
      (∀ expected actual, errorOf result ≠ some (.channelMismatch expected actual)) ∧
      out.length = frame.length ∧
      (result = .ok () → frame.length = (h.format direction).channelCount * samplesPerFrame) := by
  cases hrefusal : h.refusal direction frame.length (h.format direction).channelCount with
  | some e =>
    refine ⟨_, _, _, processFloat_of_refused hrefusal world, ?_, rfl, nofun⟩
    rintro expected actual ⟨⟩
    exact refusal_ne_channelMismatch h direction _ _ _ hrefusal
  | none =>
    obtain ⟨⟨engine, hopen⟩, -, hlength⟩ := open_of_refusal_eq_none hrefusal
    let answer := h.passFloat direction frame engine world
    refine ⟨answer.1, answer.2.1, answer.2.2,
      processFloat_of_accepted hscratch hopen hrefusal world, ?_, ?_, fun _ => hlength⟩
    · intro expected actual
      have hresult : answer.1 = _ := result_settle direction frame _ _ _ _
      rw [hresult]
      exact errorOf_ofEngine_ne _ expected actual
    · exact length_passFloat direction frame h engine world

/-- An engine is shown 16-bit samples only when the handle is. -/
theorem processPcm_notMem_engineCalls [LawfulEngine ε ω] {h : Handle ε} (hscratch : h.HasScratch)
    {op : Op} (hop : ∀ direction frame declared, op ≠ .processPcm direction frame declared)
    (direction : Direction) (samples : List Int16) (world : ω) :
    .processPcm direction samples ∉ engineCalls op (h, world) := by
  cases hengine : h.engine with
  | none =>
    rw [engineCalls_of_closed hengine]
    exact List.not_mem_nil
  | some engine =>
    rw [engineCalls_of_open hscratch hengine]
    cases op with
    | processPcm direction' frame declared => exact absurd rfl (hop direction' frame declared)
    | processFloat direction' frame declared =>
      unfold asked
      dsimp only
      split
      · exact List.not_mem_nil
      · cases direction' <;> cases (Engine.processFloat _ _ engine world).1 <;> simp [followUp]
    | applyConfig config =>
      unfold asked
      dsimp only
      split <;> simp
    | _ => simp [asked]

end Handle

namespace Processor

/-- What a processor answers when its handle has answered the translated call. The handle's setters
answer nothing; two of the processor's tell whether it was closed. -/
def Op.answer (closed : Bool) : Op → Handle.Reply → Reply
  | .processCapture _, .float result out => .float (result.map fun _ => out)
  | .processCapturePcm _, .float result out => .pcm (result.map fun _ => out.map Pcm.encode)
  | _, .result result | _, .float result _ | _, .pcm result _ => .result result
  | .setStreamDelay _, .done | .setAnalogLevel _, .done =>
    .result (if closed then .error .closed else .ok ())
  | _, .done => .done
  | _, .reading value => .reading value
  | _, .fault fault => .fault fault

/-- A handle paired with a configuration, as an object that answers calls on a processor: each is
made on the handle, with the given channel counts, and the configuration is replaced by one that the
handle accepts. -/
def pairedStep (counts : Direction → Nat) (op : Op) (s : (Handle ε × Config) × ω) :
    Reply × (Handle ε × Config) × ω :=
  let inner := (s.1.1, s.2)
  let called := Handle.step (op.onHandle counts) inner
  (op.answer s.1.1.isClosed called.1,
    (called.2.1, (Handle.appliedConfig (op.onHandle counts) inner).getD s.1.2), called.2.2)

omit [Engine ε ω] in
/-- The handle and the configuration of a processor. -/
def parts (s : Processor ε × ω) : (Handle ε × Config) × ω :=
  ((s.1.handle, s.1.config), s.2)

/-- A call on a processor is the call on its parts. -/
theorem step_parts {p : Processor ε} {counts : Direction → Nat}
    (hcounts : ∀ direction, (p.handle.format direction).channelCount = counts direction) (op : Op)
    (world : ω) :
    (step op (p, world)).1 = (pairedStep counts op (parts (p, world))).1 ∧
      parts (step op (p, world)).2 = (pairedStep counts op (parts (p, world))).2 := by
  cases op with
  | processCapture frame =>
    simp only [step, processCapture, process, hcounts, pairedStep, parts, Op.onHandle, Handle.step]
    rcases p.handle.processFloat .capture frame (counts .capture) world with
      fault | ⟨result, out, t⟩ <;> exact ⟨rfl, rfl⟩
  | processCapturePcm frame =>
    simp only [step, processCapturePcm, process, hcounts, pairedStep, parts, Op.onHandle,
      Handle.step]
    rcases p.handle.processFloat .capture (Pcm.decodeFrame frame) (counts .capture) world with
      fault | ⟨result, out, t⟩
    · exact ⟨rfl, rfl⟩
    · cases result <;> exact ⟨rfl, rfl⟩
  | processRender frame =>
    simp only [step, processRender, process, hcounts, pairedStep, parts, Op.onHandle, Handle.step]
    rcases p.handle.processFloat .render frame (counts .render) world with
      fault | ⟨result, out, t⟩
    · exact ⟨rfl, rfl⟩
    · cases result <;> exact ⟨rfl, rfl⟩
  | processRenderPcm frame =>
    simp only [step, processRenderPcm, processRender, process, hcounts, pairedStep, parts,
      Op.onHandle, Handle.step]
    rcases p.handle.processFloat .render (Pcm.decodeFrame frame) (counts .render) world with
      fault | ⟨result, out, t⟩
    · exact ⟨rfl, rfl⟩
    · cases result <;> exact ⟨rfl, rfl⟩
  | applyConfig config =>
    simp only [step, applyConfig, pairedStep, parts, Op.onHandle, Handle.appliedConfig, Handle.step]
    rcases p.handle.applyConfig config world with ⟨result, t⟩
    cases result <;> exact ⟨rfl, rfl⟩
  | setStreamDelay _ | setAnalogLevel _ =>
    -- The setters of a closed handle do nothing, so the processor looks whether it is closed first.
    by_cases hclosed : p.isClosed = true
    · have hengine : p.handle.engine = none := Option.isNone_iff_eq_none.mp hclosed
      simp only [step, setStreamDelay, setAnalogLevel, pairedStep, parts, Op.onHandle,
        if_pos hclosed, Handle.step_closed hengine]
      exact ⟨(congrArg Reply.result (if_pos hclosed)).symm, rfl⟩
    · simp only [step, setStreamDelay, setAnalogLevel, pairedStep, parts, Op.onHandle,
        if_neg hclosed]
      exact ⟨(congrArg Reply.result (if_neg hclosed)).symm, rfl⟩
  | reset | close | setOutputMuted _ | setKeyPressed _ | streamDelayMs | recommendedLevel =>
    exact ⟨rfl, rfl⟩

/-- A list of calls on a processor is the list of calls on its parts. -/
theorem run_parts [LawfulEngine ε ω] {s : Processor ε × ω} {counts : Direction → Nat}
    (hcounts : ∀ direction, (s.1.handle.format direction).channelCount = counts direction)
    (hscratch : s.1.handle.HasScratch) (ops : List Op) :
    (run ops s).1 = (History.run (pairedStep counts) ops (parts s)).1 ∧
      parts (run ops s).2 = (History.run (pairedStep counts) ops (parts s)).2 := by
  -- Each call relies on the counts and the scratch, so they are part of what is related.
  have hagrees (op : Op) (s : Processor ε × ω) (t : (Handle ε × Config) × ω) :
      (parts s = t ∧
        (∀ direction, (s.1.handle.format direction).channelCount = counts direction) ∧
        s.1.handle.HasScratch) →
      (step op s).1 = (pairedStep counts op t).1 ∧
        parts (step op s).2 = (pairedStep counts op t).2 ∧
        (∀ direction, ((step op s).2.1.handle.format direction).channelCount = counts direction) ∧
        (step op s).2.1.handle.HasScratch := by
    rintro ⟨rfl, hcounts, hscratch⟩
    obtain ⟨hreply, hparts⟩ := step_parts hcounts op s.2
    have hgeometry := Handle.geometry_step hscratch (op.onHandle counts) s.2
    rw [← inner_step hcounts] at hgeometry
    refine ⟨hreply, hparts, ?_, hscratch.of_geometry hgeometry⟩
    intro direction
    rw [← hcounts direction, ← Handle.format_of_geometry hgeometry]
    rfl
  obtain ⟨hreplies, hparts, -⟩ := History.run_agrees hagrees ops ⟨rfl, hcounts, hscratch⟩
  exact ⟨hreplies, hparts⟩

/-- The configuration that a call makes the processor accept, if it does. -/
def accepted (op : Op) (s : Processor ε × ω) : Option Config :=
  match op, (step op s).1 with
  | .applyConfig config, .result (.ok ()) => some config
  | _, _ => none

/-- A processor accepts what its handle does. -/
theorem appliedConfig_onHandle (op : Op) (s : Processor ε × ω) (counts : Direction → Nat) :
    Handle.appliedConfig (op.onHandle counts) (inner s) = accepted op s := by
  cases op with
  | applyConfig config =>
    simp only [Handle.appliedConfig, accepted, Op.onHandle, Handle.step, step, applyConfig, inner]
    rcases s.1.handle.applyConfig config s.2 with ⟨result, t⟩
    cases result <;> rfl
  | _ => rfl

/-- The configuration changes only when another is accepted. -/
theorem config_step (op : Op) (s : Processor ε × ω) :
    (step op s).2.1.config = (accepted op s).getD s.1.config := by
  have hcounts (direction : Direction) :
      (s.1.handle.format direction).channelCount = s.1.counts direction := rfl
  have hparts := (step_parts hcounts op s.2).2
  rw [← appliedConfig_onHandle op s s.1.counts]
  exact congrArg (fun t => t.1.2) hparts

/-- The error that a reply tells of, if it does. -/
def Reply.error? : Reply → Option Error
  | .result answer => errorOf answer
  | .float answer => errorOf answer
  | .pcm answer => errorOf answer
  | .done | .reading _ | .fault _ => none

/-- The answer for a frame of numbers, made one for a frame of 16-bit samples. -/
def Reply.toPcm : Reply → Reply
  | .float answer => .pcm (answer.map (List.map Pcm.encode))
  | reply => reply

/-- What becomes of the copy of a frame: the call is not aborted, does not fail for a channel count,
and gives back as many samples as it was given, which is one frame for each channel. -/
theorem process_of_scratch [LawfulEngine ε ω] {p : Processor ε} (hscratch : p.handle.HasScratch)
    (direction : Direction) (frame : List Binary32) (world : ω) :
    ∃ result t, p.process direction frame world = .ok (result, t) ∧
      (∀ expected actual, errorOf result ≠ some (.channelMismatch expected actual)) ∧
      ∀ out, result = .ok out →
        out.length = frame.length ∧ frame.length = 480 * p.counts direction := by
  obtain ⟨result, out, t, hcall, hcounted, hout, hlength⟩ :=
    Handle.processFloat_of_counted hscratch direction frame world
  refine ⟨result.map fun _ => out, p.withHandle t, ?_, ?_, ?_⟩
  · simp only [process, hcall]
    rfl
  · intro expected actual
    rw [errorOf_map]
    exact hcounted expected actual
  · intro copy hcopy
    cases result with
    | error e => cases hcopy
    | ok _ =>
      cases hcopy
      exact ⟨hout, (hlength rfl).trans (Nat.mul_comm _ _)⟩

/-- No call fails for a declared channel count. -/
theorem error_ne_channelMismatch [LawfulEngine ε ω] {s : Processor ε × ω}
    (hscratch : s.1.handle.HasScratch) (op : Op) (expected actual : Nat) :
    (step op s).1.error? ≠ some (.channelMismatch expected actual) := by
  obtain ⟨p, world⟩ := s
  cases op with
  | processCapture frame =>
    obtain ⟨result, t, hcall, hcounted, -⟩ := process_of_scratch hscratch .capture frame world
    simp only [step, processCapture, hcall, replying]
    exact hcounted expected actual
  | processCapturePcm frame =>
    obtain ⟨result, t, hcall, hcounted, -⟩ :=
      process_of_scratch hscratch .capture (Pcm.decodeFrame frame) world
    simp only [step, processCapturePcm, hcall]
    exact (errorOf_map _ result).trans_ne (hcounted expected actual)
  | processRender frame =>
    obtain ⟨result, t, hcall, hcounted, -⟩ := process_of_scratch hscratch .render frame world
    simp only [step, processRender, hcall]
    exact (errorOf_map _ result).trans_ne (hcounted expected actual)
  | processRenderPcm frame =>
    obtain ⟨result, t, hcall, hcounted, -⟩ :=
      process_of_scratch hscratch .render (Pcm.decodeFrame frame) world
    simp only [step, processRenderPcm, processRender, hcall]
    exact (errorOf_map _ result).trans_ne (hcounted expected actual)
  | reset =>
    simp only [step, reset, Handle.reset]
    cases p.handle.engine with
    | none =>
      intro herror
      cases herror
    | some engine => exact errorOf_ofEngine_ne _ expected actual
  | applyConfig config =>
    cases hengine : p.handle.engine with
    | none =>
      simp only [step, applyConfig, Handle.applyConfig, hengine]
      intro herror
      cases herror
    | some engine =>
      rcases hcall : Engine.applyConfig config engine world with ⟨result, engine', world'⟩
      simp only [step, applyConfig, Handle.applyConfig, hengine, hcall]
      cases result with
      | error e => exact errorOf_ofEngine_ne (.error e) expected actual
      | ok _ =>
        intro herror
        cases herror
  | setStreamDelay delay =>
    simp only [step, setStreamDelay]
    split <;> intro herror <;> cases herror
  | setAnalogLevel level =>
    simp only [step, setAnalogLevel]
    split <;> intro herror <;> cases herror
  | _ =>
    intro herror
    cases herror

/-- What it is for a processor made for a configuration to be a handle paired with a configuration,
whatever calls have been made on it. -/
structure RefinesHandle (config : Config) (s₀ : Processor ε × ω) : Prop where
  /-- Calls are answered as on the handle, called with the channel counts of the construction, and
  the configuration, and both are left in the same state. -/
  paired (ops : List Op) :
    let answered := History.run (pairedStep config.channelCount) ops (parts s₀)
    (run ops s₀).1 = answered.1 ∧ parts (run ops s₀).2 = answered.2
  /-- The engine is asked what the handle asks of it, and never shown 16-bit samples. -/
  asks (ops : List Op) (op : Op) :
    let s := History.after step ops s₀
    engineCalls op s = Handle.engineCalls (op.onHandle config.channelCount) (inner s) ∧
      ∀ direction samples, .processPcm direction samples ∉ engineCalls op s
  /-- No call fails for a declared channel count. -/
  counted (ops : List Op) (op : Op) (expected actual : Nat) :
    (step op (History.after step ops s₀)).1.error? ≠ some (.channelMismatch expected actual)
  /-- The processed copy of a capture frame is as long as the frame, which has the right length. -/
  captured (ops : List Op) (frame out : List Binary32) :
    (step (.processCapture frame) (History.after step ops s₀)).1 = .float (.ok out) →
      out.length = frame.length ∧ frame.length = 480 * config.channelCount .capture
  /-- A render frame that is taken has the right length. -/
  rendered (ops : List Op) (frame : List Binary32) :
    (step (.processRender frame) (History.after step ops s₀)).1 = .result (.ok ()) →
      frame.length = 480 * config.channelCount .render
  /-- A 16-bit capture frame is converted, processed as numbers, and converted back. -/
  convertsCapture (ops : List Op) (frame : List Int16) :
    let s := History.after step ops s₀
    let converted : Op := .processCapture (frame.map Pcm.decode)
    step (.processCapturePcm frame) s = ((step converted s).1.toPcm, (step converted s).2) ∧
      engineCalls (.processCapturePcm frame) s = engineCalls converted s
  /-- A 16-bit render frame is converted and processed as numbers. -/
  convertsRender (ops : List Op) (frame : List Int16) :
    let s := History.after step ops s₀
    let converted : Op := .processRender (frame.map Pcm.decode)
    step (.processRenderPcm frame) s = step converted s ∧
      engineCalls (.processRenderPcm frame) s = engineCalls converted s
  /-- The configuration is the one accepted last, or else that of the construction. -/
  remembered (ops : List Op) :
    (History.after step ops s₀).1.config = (History.latest step accepted ops s₀).getD config

/-- A call on a processor with a 16-bit capture frame is one with the converted frame. -/
theorem step_processCapturePcm (frame : List Int16) (s : Processor ε × ω) :
    let converted : Op := .processCapture (frame.map Pcm.decode)
    step (.processCapturePcm frame) s = ((step converted s).1.toPcm, (step converted s).2) := by
  simp only [step, processCapture, processCapturePcm, Pcm.decodeFrame]
  rcases s.1.process .capture (frame.map Pcm.decode) s.2 with fault | ⟨result, t⟩ <;> rfl

/-- A processor that comes out of its creation has the handle created for the same configuration. -/
theorem exists_of_create {config : Config} {world₀ world : ω} {p : Processor ε}
    (hmade : create config world₀ = (.ok p, world)) :
    ∃ h, Handle.create config world₀ = (.ok h, world) ∧ p = ⟨h, config⟩ := by
  rcases hcreate : Handle.create (ε := ε) config world₀ with ⟨result, world'⟩
  simp only [create, hcreate] at hmade
  cases result with
  | error e => cases hmade
  | ok h =>
    cases hmade
    exact ⟨h, rfl, rfl⟩

/-- Every processor refines the handle that it was made with. -/
theorem refinesHandle [LawfulEngine ε ω] {config : Config} {world₀ world : ω} {h : Handle ε}
    (hcreate : Handle.create config world₀ = (.ok h, world)) :
    RefinesHandle config ((⟨h, config⟩ : Processor ε), world) := by
  have hcounts := Handle.channelCount_format_of_create hcreate
  have hscratch : h.HasScratch := (Handle.ready_of_create hcreate).1
  -- Whatever is called, the handle inside keeps its scratch and its channel counts.
  have hkept (ops : List Op) :
      let s := History.after step ops ((⟨h, config⟩ : Processor ε), world)
      s.1.handle.HasScratch ∧ s.1.counts = config.channelCount := by
    have hinner := inner_after (s := (⟨h, config⟩, world)) hcounts hscratch ops
    have hgeometry := (congrArg (fun t => t.1.geometry) hinner).trans
      (Handle.geometry_after hscratch (ops.map (Op.onHandle config.channelCount)))
    refine ⟨hscratch.of_geometry hgeometry, ?_⟩
    funext direction
    have hformat := congrFun (Handle.format_of_geometry hgeometry) direction
    exact (congrArg StreamFormat.channelCount hformat).trans (hcounts direction)
  refine ⟨run_parts hcounts hscratch, ?_, ?_, ?_, ?_, ?_, ?_, ?_⟩
  · intro ops op
    obtain ⟨hscratch, hcounts⟩ := hkept ops
    dsimp only
    rw [engineCalls_eq, hcounts]
    refine ⟨rfl, fun direction samples => ?_⟩
    apply Handle.processPcm_notMem_engineCalls hscratch
    intro direction' frame declared
    cases op <;> nofun
  · intro ops op
    exact error_ne_channelMismatch (hkept ops).1 op
  · intro ops frame out hreply
    obtain ⟨hscratch, hcounts⟩ := hkept ops
    obtain ⟨result, t, hcall, -, hlengths⟩ := process_of_scratch hscratch .capture frame
      (History.after step ops ((⟨h, config⟩ : Processor ε), world)).2
    simp only [step, processCapture, hcall, replying] at hreply
    rw [← hcounts]
    exact hlengths out (Reply.float.inj hreply)
  · intro ops frame hreply
    obtain ⟨hscratch, hcounts⟩ := hkept ops
    obtain ⟨result, t, hcall, -, hlengths⟩ := process_of_scratch hscratch .render frame
      (History.after step ops ((⟨h, config⟩ : Processor ε), world)).2
    simp only [step, processRender, hcall] at hreply
    rw [← hcounts]
    cases result with
    | error e => cases hreply
    | ok out => exact (hlengths out rfl).2
  · intro ops frame
    refine ⟨step_processCapturePcm frame _, ?_⟩
    rw [engineCalls_eq, engineCalls_eq]
    rfl
  · intro ops frame
    exact ⟨rfl, rfl⟩
  · intro ops
    exact History.observe_after accepted (fun s => s.1.config) (P := fun _ => True)
      (fun _ _ _ _ => trivial) (fun op _ s _ => config_step op s) trivial

end Processor

namespace Bypass

/-- The bypass engine of a processor has the configuration that the processor remembers. -/
theorem config_of_processor {config : Config} {h : Handle Bypass}
    (hcreate : Handle.create config () = (.ok h, ())) (ops : List Processor.Op) :
    let s := History.after Processor.step ops ((⟨h, config⟩ : Processor Bypass), ())
    ∀ b, s.1.handle.engine = some b → b.config = s.1.config := by
  have hall := History.after_invariant Processor.step
    (P := fun s : Processor Bypass × Unit => s.1.handle.HasScratch ∧
      ∀ b, s.1.handle.engine = some b → b.config = s.1.config) ?_ ops
    (s := (⟨h, config⟩, ())) ?_
  · exact hall.2
  · rintro op ⟨p, world⟩ ⟨hscratch, hsame⟩
    have hcounts (direction : Direction) :
        (p.handle.format direction).channelCount = p.counts direction := rfl
    have hinner := Processor.inner_step hcounts op world
    have hgeometry := Handle.geometry_step hscratch (op.onHandle p.counts) world
    rw [← hinner] at hgeometry
    refine ⟨hscratch.of_geometry hgeometry, ?_⟩
    intro b' hopen'
    replace hopen' : (Handle.step (op.onHandle p.counts) (p.handle, world)).2.1.engine = some b' :=
      (congrArg (fun t => t.1.engine) hinner).symm.trans hopen'
    cases hengine : p.handle.engine with
    | none =>
      rw [Handle.step_closed hengine] at hopen'
      cases hengine.symm.trans hopen'
    | some b =>
      by_cases hop : op.onHandle p.counts = .destroy
      · rw [hop, Handle.step_destroy hengine] at hopen'
        cases hopen'
      · obtain ⟨b'', hopen'', hconfig, -⟩ := registers_step hscratch hengine hop
        obtain rfl := Option.some.inj (hopen''.symm.trans hopen')
        rw [hconfig, hsame b hengine, Processor.config_step]
        exact congrArg (fun applied => applied.getD p.config)
          (Processor.appliedConfig_onHandle op (p, ()) p.counts)
  · obtain ⟨b, hopen, hconfig, -⟩ := registers_of_create hcreate
    refine ⟨(Handle.ready_of_create hcreate).1, ?_⟩
    intro b' hopen'
    obtain rfl := Option.some.inj (hopen.symm.trans hopen')
    exact hconfig

end Bypass

/-- On every engine a processor is made together with a handle, and refines it. On the bypass
engine its configuration is that of the engine for as long as there is one. -/
theorem processors_refineHandles :
    (∀ {ε ω : Type} [Engine ε ω] [LawfulEngine ε ω] (config : Config) (world₀ : ω),
      Processor.create (ε := ε) config world₀ =
          ((Handle.create config world₀).1.map fun h => ⟨h, config⟩,
            (Handle.create (ε := ε) config world₀).2) ∧
        ∀ p world, Processor.create (ε := ε) config world₀ = (.ok p, world) →
          Processor.RefinesHandle config (p, world)) ∧
    ∀ (config : Config) (p : Processor Bypass), Processor.create config () = (.ok p, ()) →
      ∀ ops, let s := History.after Processor.step ops (p, ())
        s.1.isClosed = false → ∃ b, s.1.handle.engine = some b ∧ b.config = s.1.config := by
  refine ⟨fun config world₀ => ⟨?_, ?_⟩, ?_⟩
  · rcases hcreate : Handle.create config world₀ with ⟨result, world⟩
    simp only [Processor.create, hcreate]
    cases result <;> rfl
  · intro p world hmade
    obtain ⟨h, hcreate, rfl⟩ := Processor.exists_of_create hmade
    exact Processor.refinesHandle hcreate
  · intro config p hmade ops s hopen
    obtain ⟨h, hcreate, rfl⟩ := Processor.exists_of_create hmade
    obtain ⟨b, hengine⟩ := Handle.exists_engine hopen
    exact ⟨b, hengine, Bypass.config_of_processor hcreate ops b hengine⟩

/-- A processor on the bypass engine is given a second configuration, closed, and given a third,
which is refused. It remembers the second, which the engine had as long as there was one. -/
theorem processors_refineHandles_of_closed :
    let second : Config := { echoCanceller := some {}, captureChannels := 9 }
    let third : Config := { noiseSuppression := some {} }
    ∃ p : Processor Bypass, Processor.create {} () = (.ok p, ()) ∧
      (∃ b, (History.after Processor.step [.applyConfig second] (p, ())).1.handle.engine = some b ∧
        b.config = second) ∧
      (History.after Processor.step [.applyConfig second, .close, .applyConfig third]
        (p, ())).1.config = second := by
  intro second third
  obtain ⟨p, hmade, hopen, hearly, hlate⟩ :
      ∃ p : Processor Bypass, Processor.create {} () = (.ok p, ()) ∧
        (History.after Processor.step [.applyConfig second] (p, ())).1.isClosed = false ∧
        History.latest Processor.step Processor.accepted [.applyConfig second] (p, ()) =
          some second ∧
        History.latest Processor.step Processor.accepted
          [.applyConfig second, .close, .applyConfig third] (p, ()) = some second :=
    ⟨_, rfl, rfl, rfl, rfl⟩
  have hrefines := (processors_refineHandles.1 {} ()).2 p () hmade
  have hearlier := hrefines.remembered [.applyConfig second]
  have hlater := hrefines.remembered [.applyConfig second, .close, .applyConfig third]
  rw [hearly] at hearlier
  rw [hlate] at hlater
  obtain ⟨b, hengine, hconfig⟩ := processors_refineHandles.2 {} p hmade [.applyConfig second] hopen
  exact ⟨p, hmade, ⟨b, hengine, hconfig.trans hearlier⟩, hlater⟩

end VoiceProcessing
