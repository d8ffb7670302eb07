import VoiceProcessing.Proofs.HandleSteps

/-!
# Recording what a handle asks of its engine

Which calls reach an engine cannot be read off its state, since a call may change nothing. So an
engine of any kind is wrapped into one that keeps a record of its calls and is the same otherwise.
Nothing in a handle can tell the difference, and therefore the calls on record are those that the
handle makes on the engine itself, whose later state they explain completely.

Creation and the end of an engine are not on record.
-/

namespace VoiceProcessing

/-- An engine whose calls are recorded. -/
structure Recorded (ε : Type) where
  engine : ε

/-- The world of an engine, with the calls made so far, the earliest first. -/
structure Recording (ω : Type) where
  world : ω
  calls : List Engine.Op

/-- The recording after one more call. -/
def Recording.note {ω : Type} (r : Recording ω) (call : Engine.Op) (world : ω) : Recording ω :=
  ⟨world, r.calls ++ [call]⟩

variable {ε ω : Type} [Engine ε ω]

instance : Engine (Recorded ε) (Recording ω) where
  create config capture render r :=
    let (result, world) := Engine.create (ε := ε) config capture render r.world
    (result.map Recorded.mk, { r with world })
  reset e r :=
    let (result, engine, world) := Engine.reset e.engine r.world
    (result, ⟨engine⟩, r.note .reset world)
  applyConfig config e r :=
    let (result, engine, world) := Engine.applyConfig config e.engine r.world
    (result, ⟨engine⟩, r.note (.applyConfig config) world)
  processFloat direction channels e r :=
    let (result, out, engine, world) := Engine.processFloat direction channels e.engine r.world
    (result, out, ⟨engine⟩, r.note (.processFloat direction channels) world)
  processPcm direction samples e r :=
    let (result, out, engine, world) := Engine.processPcm direction samples e.engine r.world
    (result, out, ⟨engine⟩, r.note (.processPcm direction samples) world)
  statistics e r :=
    let (stats, engine, world) := Engine.statistics e.engine r.world
    (stats, ⟨engine⟩, r.note .statistics world)
  hint hint e r :=
    let (engine, world) := Engine.hint hint e.engine r.world
    (⟨engine⟩, r.note (.hint hint) world)
  delayMs e r :=
    let (ms, engine, world) := Engine.delayMs e.engine r.world
    (ms, ⟨engine⟩, r.note .delayMs world)
  recommendedLevel e r :=
    let (level, engine, world) := Engine.recommendedLevel e.engine r.world
    (level, ⟨engine⟩, r.note .recommendedLevel world)
  destroy e r := { r with world := Engine.destroy e.engine r.world }

instance [LawfulEngine ε ω] : LawfulEngine (Recorded ε) (Recording ω) where
  lengths_processFloat direction channels e r :=
    LawfulEngine.lengths_processFloat direction channels e.engine r.world
  length_processPcm direction samples e r :=
    LawfulEngine.length_processPcm direction samples e.engine r.world

namespace Handle

omit [Engine ε ω] in
/-- The same handle on the recorded engine. -/
def recorded (h : Handle ε) : Handle (Recorded ε) where
  engine := h.engine.map Recorded.mk
  capture := h.capture
  render := h.render
  channels := h.channels
  samples := h.samples
  streamDelay := h.streamDelay
  statistics := h.statistics

/-- A handle and its world, with the calls recorded so far. -/
def recordedWith (calls : List Engine.Op) (s : Handle ε × ω) :
    Handle (Recorded ε) × Recording ω :=
  (s.1.recorded, ⟨s.2, calls⟩)

/-- The calls on its engine that a call on a handle makes, in order. -/
def engineCalls (op : Op) (s : Handle ε × ω) : List Engine.Op :=
  (step op (recordedWith [] s)).2.2.calls

/-- The calls on its engine that a list of calls on a handle makes, in order. -/
def callsMade (ops : List Op) (s : Handle ε × ω) : List Engine.Op :=
  (History.after step ops (recordedWith [] s)).2.calls

/-- The call that follows a frame: a successful capture frame is followed by the statistics. -/
def followUp : Direction → Except EngineError Unit → List Engine.Op
  | .capture, .ok () => [.statistics]
  | _, _ => []

/-- What each call on an open handle asks of the engine. -/
def asked (op : Op) (h : Handle ε) (engine : ε) (world : ω) : List Engine.Op :=
  match op with
  | .processFloat direction frame declared =>
    match h.refusal direction frame.length declared with
    | some _ => []
    | none =>
      let channels := split (h.format direction).channelCount frame
      .processFloat direction channels ::
        followUp direction (Engine.processFloat direction channels engine world).1
  | .processPcm direction frame declared =>
    match h.refusal direction frame.length declared with
    | some _ => []
    | none =>
      .processPcm direction frame ::
        followUp direction (Engine.processPcm direction frame engine world).1
  | .reset => [.reset]
  | .applyConfig config =>
    match (Engine.applyConfig config engine world).1 with
    | .error _ => [.applyConfig config]
    | .ok () => [.applyConfig config, .hint (.delay config.streamDelay.hintMs)]
  | .destroy => []
  | .setStreamDelay delay => [.hint (.delay delay.hintMs)]
  | .setAnalogLevel level => [.hint (.analogLevel level)]
  | .setOutputMuted muted => [.hint (.outputMuted muted)]
  | .setKeyPressed pressed => [.hint (.keyPressed pressed)]
  | .streamDelayMs => [.delayMs]
  | .recommendedLevel => [.recommendedLevel]

omit [Engine ε ω] in
/-- Recording does not change which frames are refused. -/
@[simp] theorem refusal_recorded (h : Handle ε) (direction : Direction) (length declared : Nat) :
    h.recorded.refusal direction length declared = h.refusal direction length declared := by
  cases hengine : h.engine <;> cases direction <;>
    simp only [refusal, isClosed, recorded, hengine, format] <;> rfl

omit [Engine ε ω] in
/-- Recording does not change the scratch. -/
theorem HasScratch.recorded {h : Handle ε} (hscratch : h.HasScratch) : h.recorded.HasScratch := by
  intro direction
  cases direction
  · exact hscratch .capture
  · exact hscratch .render

/-- A new snapshot puts the statistics on record. -/
theorem observe_recorded (direction : Direction) (h : Handle ε) (engine : ε) (world : ω)
    (calls : List Engine.Op) :
    h.recorded.observe direction ⟨engine⟩ ⟨world, calls⟩ =
      recordedWith (calls ++ followUp direction (.ok ())) (h.observe direction engine world) := by
  cases direction with
  | render => simp only [observe, followUp, recordedWith, List.append_nil]; rfl
  | capture => rfl

/-- What comes of a frame does not depend on the recording, which the follow-up is added to. -/
theorem settle_recorded {F : Type} (direction : Direction) (frame out : F) (h : Handle ε)
    (result : Except EngineError Unit) (s : ε × ω) (calls : List Engine.Op) :
    h.recorded.settle direction frame out result (⟨s.1⟩, ⟨s.2, calls⟩) =
      ((h.settle direction frame out result s).1, (h.settle direction frame out result s).2.1,
        recordedWith (calls ++ followUp direction result)
          (h.settle direction frame out result s).2.2) := by
  cases result with
  | error e =>
    cases direction <;> simp only [settle, followUp, recordedWith, List.append_nil] <;> rfl
  | ok _ => simp only [settle, observe_recorded]

/-- An accepted frame of numbers puts its channels on record. -/
theorem passFloat_recorded (direction : Direction) (frame : List Binary32) (h : Handle ε)
    (engine : ε) (world : ω) (calls : List Engine.Op) :
    h.recorded.passFloat direction frame ⟨engine⟩ ⟨world, calls⟩ =
      ((h.passFloat direction frame engine world).1,
        (h.passFloat direction frame engine world).2.1,
        recordedWith
          (calls ++ .processFloat direction (split (h.format direction).channelCount frame) ::
            followUp direction (Engine.processFloat direction
              (split (h.format direction).channelCount frame) engine world).1)
          (h.passFloat direction frame engine world).2.2) := by
  have hformat : h.recorded.format direction = h.format direction := by cases direction <;> rfl
  let count := (h.format direction).channelCount
  let answer := Engine.processFloat direction (split count frame) engine world
  rw [List.append_cons, passFloat, passFloat, hformat]
  exact settle_recorded direction frame (interleave answer.2.1 frame)
    { h with channels := answer.2.1 ++ h.channels.drop count } answer.1 answer.2.2 _

/-- An accepted frame of 16-bit samples goes on record. -/
theorem passPcm_recorded (direction : Direction) (frame : List Int16) (h : Handle ε)
    (engine : ε) (world : ω) (calls : List Engine.Op) :
    h.recorded.passPcm direction frame ⟨engine⟩ ⟨world, calls⟩ =
      ((h.passPcm direction frame engine world).1,
        (h.passPcm direction frame engine world).2.1,
        recordedWith
          (calls ++ .processPcm direction frame ::
            followUp direction (Engine.processPcm direction frame engine world).1)
          (h.passPcm direction frame engine world).2.2) := by
  let answer := Engine.processPcm direction frame engine world
  rw [List.append_cons]
  exact settle_recorded direction frame answer.2.1 { h with samples := answer.2.1 } answer.1
    answer.2.2 _

/-- Whatever call is made on an open handle, the recorded engine answers as the engine does, and the
calls asked of it go on record. -/
theorem step_recordedWith [LawfulEngine ε ω] {h : Handle ε} (hscratch : h.HasScratch) {engine : ε}
    (hopen : h.engine = some engine) (op : Op) (world : ω) (calls : List Engine.Op) :
    step op (recordedWith calls (h, world)) =
      ((step op (h, world)).1,
        recordedWith (calls ++ asked op h engine world) (step op (h, world)).2) := by
  have hrecorded : h.recorded.engine = some ⟨engine⟩ := by rw [recorded, hopen]; rfl
  cases op with
  | processFloat direction frame declared =>
    cases hrefusal : h.refusal direction frame.length declared with
    | some e =>
      rw [recordedWith, step_processFloat_of_refused hrefusal,
        step_processFloat_of_refused (by rw [refusal_recorded, hrefusal])]
      simp only [asked, hrefusal, List.append_nil]
      rfl
    | none =>
      rw [recordedWith, step_processFloat_of_accepted hscratch hopen hrefusal,
        step_processFloat_of_accepted hscratch.recorded hrecorded
          (by rw [refusal_recorded, hrefusal]), passFloat_recorded]
      simp only [asked, hrefusal]
  | processPcm direction frame declared =>
    cases hrefusal : h.refusal direction frame.length declared with
    | some e =>
      rw [recordedWith, step_processPcm_of_refused hrefusal,
        step_processPcm_of_refused (by rw [refusal_recorded, hrefusal])]
      simp only [asked, hrefusal, List.append_nil]
      rfl
    | none =>
      rw [recordedWith, step_processPcm_of_accepted hopen hrefusal,
        step_processPcm_of_accepted hrecorded (by rw [refusal_recorded, hrefusal]),
        passPcm_recorded]
      simp only [asked, hrefusal]
  | reset =>
    simp only [step, recordedWith, reset, hopen, hrecorded, Engine.reset]
    rfl
  | applyConfig config =>
    rcases hcall : Engine.applyConfig config engine world with ⟨result, engine', world'⟩
    simp only [step, recordedWith, applyConfig, hopen, hrecorded, Engine.applyConfig, asked, hcall]
    cases result with
    | error e => rfl
    | ok _ =>
      simp only [Engine.hint, Recording.note, List.append_assoc, List.singleton_append]
      rfl
  | destroy =>
    simp only [step, recordedWith, destroy, hopen, hrecorded, asked, List.append_nil]
    rfl
  | setStreamDelay delay =>
    simp only [step, recordedWith, setStreamDelay, hopen, hrecorded]
    rfl
  | setAnalogLevel level =>
    simp only [step, recordedWith, setAnalogLevel, hint, hopen, hrecorded]
    rfl
  | setOutputMuted muted =>
    simp only [step, recordedWith, setOutputMuted, hint, hopen, hrecorded]
    rfl
  | setKeyPressed pressed =>
    simp only [step, recordedWith, setKeyPressed, hint, hopen, hrecorded]
    rfl
  | streamDelayMs =>
    simp only [step, recordedWith, streamDelayMs, read, hopen, hrecorded]
    rfl
  | recommendedLevel =>
    simp only [step, recordedWith, recommendedLevel, read, hopen, hrecorded]
    rfl

/-- The record of a call on an open handle is what the call asks of the engine. -/
theorem engineCalls_of_open [LawfulEngine ε ω] {h : Handle ε} (hscratch : h.HasScratch)
    {engine : ε} (hopen : h.engine = some engine) (op : Op) (world : ω) :
    engineCalls op (h, world) = asked op h engine world := by
  rw [engineCalls, step_recordedWith hscratch hopen]
  rfl

/-- A call on a closed handle asks nothing. -/
theorem engineCalls_of_closed {h : Handle ε} (hclosed : h.engine = none) (op : Op) (world : ω) :
    engineCalls op (h, world) = [] := by
  have hrecorded : h.recorded.engine = none := by rw [recorded, hclosed]; rfl
  rw [engineCalls, recordedWith, step_closed hrecorded]

/-- A refused frame of numbers is not shown to the engine. -/
theorem engineCalls_processFloat_of_refused {h : Handle ε} {direction : Direction}
    {frame : List Binary32} {declared : Nat} {e : Error}
    (hrefused : h.refusal direction frame.length declared = some e) (world : ω) :
    engineCalls (.processFloat direction frame declared) (h, world) = [] := by
  rw [engineCalls, recordedWith,
    step_processFloat_of_refused (by rw [refusal_recorded, hrefused])]

/-- A refused frame of 16-bit samples is not shown to the engine. -/
theorem engineCalls_processPcm_of_refused {h : Handle ε} {direction : Direction}
    {frame : List Int16} {declared : Nat} {e : Error}
    (hrefused : h.refusal direction frame.length declared = some e) (world : ω) :
    engineCalls (.processPcm direction frame declared) (h, world) = [] := by
  rw [engineCalls, recordedWith,
    step_processPcm_of_refused (by rw [refusal_recorded, hrefused])]

/-- An accepted frame of numbers is shown to the engine as its channels. -/
theorem engineCalls_processFloat_of_accepted [LawfulEngine ε ω] {h : Handle ε}
    (hscratch : h.HasScratch) {engine : ε} (hopen : h.engine = some engine)
    {direction : Direction} {frame : List Binary32} {declared : Nat}
    (haccepted : h.refusal direction frame.length declared = none) (world : ω) :
    let channels := split (h.format direction).channelCount frame
    engineCalls (.processFloat direction frame declared) (h, world) =
      .processFloat direction channels ::
        followUp direction (Engine.processFloat direction channels engine world).1 := by
  rw [engineCalls_of_open hscratch hopen]
  simp only [asked, haccepted]

/-- An accepted frame of 16-bit samples is shown to the engine as it is. -/
theorem engineCalls_processPcm_of_accepted [LawfulEngine ε ω] {h : Handle ε}
    (hscratch : h.HasScratch) {engine : ε} (hopen : h.engine = some engine)
    {direction : Direction} {frame : List Int16} {declared : Nat}
    (haccepted : h.refusal direction frame.length declared = none) (world : ω) :
    engineCalls (.processPcm direction frame declared) (h, world) =
      .processPcm direction frame ::
        followUp direction (Engine.processPcm direction frame engine world).1 := by
  rw [engineCalls_of_open hscratch hopen]
  simp only [asked, haccepted]

/-- A handle on a recorded engine is the handle on the engine, with a record of its calls. -/
theorem step_recorded [LawfulEngine ε ω] {h : Handle ε} (hscratch : h.HasScratch) (op : Op)
    (world : ω) (calls : List Engine.Op) :
    step op (recordedWith calls (h, world)) =
      ((step op (h, world)).1,
        recordedWith (calls ++ engineCalls op (h, world)) (step op (h, world)).2) := by
  cases hengine : h.engine with
  | none =>
    have hrecorded : h.recorded.engine = none := by rw [recorded, hengine]; rfl
    rw [engineCalls_of_closed hengine, step_closed hengine, recordedWith, step_closed hrecorded,
      List.append_nil]
    rfl
  | some engine =>
    rw [engineCalls_of_open hscratch hengine, step_recordedWith hscratch hengine]

/-- After an accepted frame the engine and its world are those after the follow-up. -/
theorem engine_settle {F : Type} (direction : Direction) (frame out : F) (h : Handle ε)
    (result : Except EngineError Unit) (s : ε × ω) :
    let after := History.after Engine.step (followUp direction result) s
    (h.settle direction frame out result s).2.2.1.engine = some after.1 ∧
      (h.settle direction frame out result s).2.2.2 = after.2 := by
  cases result <;> cases direction <;> exact ⟨rfl, rfl⟩

/-- Unless it gives up the engine, a call on an open handle leaves the handle open, and what it
asked of the engine explains the later state of the engine and its world. -/
theorem engine_step [LawfulEngine ε ω] {h : Handle ε} (hscratch : h.HasScratch) {engine : ε}
    (hopen : h.engine = some engine) {op : Op} (hop : op ≠ .destroy) (world : ω) :
    let s := History.after Engine.step (asked op h engine world) (engine, world)
    (step op (h, world)).2.1.engine = some s.1 ∧ (step op (h, world)).2.2 = s.2 := by
  cases op with
  | processFloat direction frame declared =>
    cases hrefusal : h.refusal direction frame.length declared with
    | some e =>
      rw [step_processFloat_of_refused hrefusal]
      simp only [asked, hrefusal, History.after_nil]
      exact ⟨hopen, trivial⟩
    | none =>
      rw [step_processFloat_of_accepted hscratch hopen hrefusal]
      simp only [asked, hrefusal]
      exact engine_settle direction frame _ _ _ _
  | processPcm direction frame declared =>
    cases hrefusal : h.refusal direction frame.length declared with
    | some e =>
      rw [step_processPcm_of_refused hrefusal]
      simp only [asked, hrefusal, History.after_nil]
      exact ⟨hopen, trivial⟩
    | none =>
      rw [step_processPcm_of_accepted hopen hrefusal]
      simp only [asked, hrefusal]
      exact engine_settle direction frame _ _ _ _
  | applyConfig config =>
    rcases hcall : Engine.applyConfig config engine world with ⟨result, engine', world'⟩
    cases result with
    | error e =>
      simp only [step, applyConfig, hopen, asked, hcall, History.after_cons, Engine.step]
      exact ⟨rfl, rfl⟩
    | ok _ =>
      simp only [step, applyConfig, hopen, asked, hcall, History.after_cons, Engine.step]
      exact ⟨rfl, rfl⟩
  | destroy => exact absurd rfl hop
  | setStreamDelay delay =>
    simp only [step, setStreamDelay, hopen]
    exact ⟨rfl, rfl⟩
  | reset | setAnalogLevel _ | setOutputMuted _ | setKeyPressed _ | streamDelayMs
  | recommendedLevel =>
    rw [step_passedOn hopen rfl]
    exact ⟨rfl, rfl⟩

/-- Giving up the engine of an open handle closes the handle and ends the engine. -/
theorem step_destroy {h : Handle ε} {engine : ε} (hopen : h.engine = some engine) (world : ω) :
    step .destroy (h, world) =
      (.done, { h with engine := none, statistics := {} }, Engine.destroy engine world) := by
  simp only [step, destroy, hopen]

/-- A handle is closed after a call if it was before, or if the call gave up the engine. -/
theorem isClosed_step [LawfulEngine ε ω] {h : Handle ε} (hscratch : h.HasScratch) (op : Op)
    (world : ω) :
    (step op (h, world)).2.1.isClosed = true ↔ h.isClosed = true ∨ op = .destroy := by
  cases hengine : h.engine with
  | none => simp [step_closed hengine, isClosed, hengine]
  | some engine =>
    by_cases hop : op = .destroy
    · subst hop
      simp [step_destroy hengine, isClosed]
    · have hstep := (engine_step hscratch hengine hop world).1
      simp [isClosed, hstep, hengine, hop]

/-- A handle is closed after a history exactly if it was before or the history gave up the engine
somewhere. -/
theorem isClosed_after [LawfulEngine ε ω] {s : Handle ε × ω} (hscratch : s.1.HasScratch)
    (ops : List Op) :
    (History.after step ops s).1.isClosed = true ↔ s.1.isClosed = true ∨ .destroy ∈ ops := by
  induction ops generalizing s with
  | nil => simp
  | cons op ops ih =>
    have hscratch' := hscratch.of_geometry (geometry_step hscratch op s.2)
    rw [History.after_cons, ih hscratch', isClosed_step hscratch, List.mem_cons, or_assoc,
      eq_comm (a := op)]

omit [Engine ε ω] in
/-- A handle that is not closed has an engine. -/
theorem exists_engine {h : Handle ε} (hopen : h.isClosed = false) :
    ∃ engine, h.engine = some engine :=
  Option.isSome_iff_exists.mp (Option.isNone_eq_false_iff.mp hopen)

omit [Engine ε ω] in
/-- A handle that can be used: it is open and has scratch for every channel. -/
def Ready (s : Handle ε × ω) : Prop :=
  s.1.HasScratch ∧ ∃ engine, s.1.engine = some engine

/-- A new handle is ready. -/
theorem ready_of_create {config : Config} {world world' : ω} {h : Handle ε}
    (hcreate : create config world = (.ok h, world')) : Ready (h, world') := by
  obtain ⟨_, _, _, -, rfl, -⟩ := exists_of_create hcreate
  exact ⟨hasScratch_opened _ _ _ _, _, rfl⟩

/-- A handle stays ready until its engine is given up. -/
theorem Ready.step [LawfulEngine ε ω] {op : Op} (hop : op ≠ .destroy) {s : Handle ε × ω}
    (hs : Ready s) : Ready (Handle.step op s).2 := by
  obtain ⟨hscratch, engine, hopen⟩ := hs
  exact ⟨hscratch.of_geometry (geometry_step hscratch op s.2), _,
    (engine_step hscratch hopen hop s.2).1⟩

/-- So do all calls of a history that does not give up the engine. -/
theorem Ready.step_of_mem [LawfulEngine ε ω] {ops : List Op} (hops : .destroy ∉ ops) :
    ∀ op ∈ ops, ∀ s : Handle ε × ω, Ready s → Ready (Handle.step op s).2 :=
  fun _ hop _ hs => hs.step fun hend => hops (hend ▸ hop)

/-- A handle stays ready through such a history. -/
theorem Ready.after [LawfulEngine ε ω] {ops : List Op} (hops : .destroy ∉ ops) {s : Handle ε × ω}
    (hs : Ready s) : Ready (History.after Handle.step ops s) :=
  History.after_invariant_of_mem Handle.step (Ready.step_of_mem hops) hs

/-- What no operation of an engine undoes, no call on its handle undoes, as long as there is an
engine. -/
theorem engine_kept [LawfulEngine ε ω] {P : ε × ω → Prop}
    (kept : ∀ op s, P s → P (Engine.step op s).2) {h : Handle ε} (hscratch : h.HasScratch)
    {world : ω} (hengine : ∀ engine, h.engine = some engine → P (engine, world)) (op : Op)
    (engine' : ε) (hopen' : (step op (h, world)).2.1.engine = some engine') :
    P (engine', (step op (h, world)).2.2) := by
  -- The engine after the call was there before it, and only its own operations changed it.
  cases hopen : h.engine with
  | none =>
    rw [step_closed hopen, hopen] at hopen'
    cases hopen'
  | some engine =>
    by_cases hop : op = .destroy
    · rw [hop, step_destroy hopen] at hopen'
      cases hopen'
    · obtain ⟨hstep, hworld⟩ := engine_step hscratch hopen hop world
      rw [hstep] at hopen'
      cases hopen'
      rw [hworld]
      exact History.after_invariant Engine.step kept _ (hengine engine hopen)

/-- What an engine is made with, and what none of its operations undoes, holds of the engine of
every open handle, together with the formats of the handle. -/
theorem Reachable.engine_invariant [LawfulEngine ε ω]
    {P : StreamFormat → StreamFormat → ε × ω → Prop}
    (made : ∀ config capture render world engine world',
      Engine.create config capture render world = (.ok engine, world') →
        P capture render (engine, world'))
    (kept : ∀ op capture render s, P capture render s →
      P capture render (Engine.step op s).2)
    {h : Handle ε} {world : ω} (hreachable : Reachable (h, world)) {engine : ε}
    (hopen : h.engine = some engine) : P h.capture h.render (engine, world) := by
  have hall := History.Reachable.invariant (P := fun s : Handle ε × ω => s.1.HasScratch ∧
    ∀ engine, s.1.engine = some engine → P s.1.capture s.1.render (engine, s.2)) ?_ ?_ hreachable
  · exact hall.2 engine hopen
  · intro s hcreated
    obtain ⟨h, world'⟩ := s
    obtain ⟨config, world, hcreate⟩ := hcreated
    obtain ⟨hcapture, hrender, made', hmade, rfl, rfl⟩ := exists_of_create hcreate
    refine ⟨hasScratch_opened _ _ _ _, ?_⟩
    intro engine hengine
    cases hengine
    exact History.after_invariant Engine.step (fun op s hs => kept op _ _ s hs) _
      (made _ _ _ _ _ _ hmade)
  · intro op s hbefore
    obtain ⟨h, world⟩ := s
    obtain ⟨hscratch, hengine⟩ := hbefore
    have hgeometry := geometry_step hscratch op world
    have hcapture : (step op (h, world)).2.1.capture = h.capture := congrArg (·.1) hgeometry
    have hrender : (step op (h, world)).2.1.render = h.render := congrArg (·.2.1) hgeometry
    refine ⟨hscratch.of_geometry hgeometry, ?_⟩
    intro engine' hopen'
    rw [hcapture, hrender]
    exact engine_kept (fun op s hs => kept op _ _ s hs) hscratch hengine op engine' hopen'

/-- What a world is left with when engines are created, used and given up in it, it is left with by
every list of calls on a handle. Of an engine may be known what its creation provides and its
operations keep. -/
theorem worldDuring_invariant [LawfulEngine ε ω] {P : ε × ω → Prop} {Q : ω → Prop}
    (remains : ∀ s, P s → Q s.2)
    (creates : ∀ config capture render world, Q world →
      let made := Engine.create (ε := ε) config capture render world
      Q made.2 ∧ ∀ engine, made.1 = .ok engine → P (engine, made.2))
    (steps : ∀ op s, P s → P (Engine.step op s).2)
    (ends : ∀ s, P s → Q (Engine.destroy s.1 s.2)) (config : Config) (ops : List Op) {world : ω}
    (hworld : Q world) : Q (worldDuring ε config ops world) := by
  have hkeeps (op : Op) (s : Handle ε × ω) :
      (s.1.HasScratch ∧ Q s.2 ∧ ∀ engine, s.1.engine = some engine → P (engine, s.2)) →
      (step op s).2.1.HasScratch ∧ Q (step op s).2.2 ∧
        ∀ engine, (step op s).2.1.engine = some engine → P (engine, (step op s).2.2) := by
    obtain ⟨h, world⟩ := s
    rintro ⟨hscratch, hworld, hengine⟩
    have hkept := engine_kept steps hscratch hengine op
    refine ⟨hscratch.of_geometry (geometry_step hscratch op world), ?_, hkept⟩
    cases hopen : h.engine with
    | none =>
      rw [step_closed hopen]
      exact hworld
    | some engine =>
      by_cases hop : op = .destroy
      · rw [hop, step_destroy hopen]
        exact ends _ (hengine engine hopen)
      · exact remains _ (hkept _ (engine_step hscratch hopen hop world).1)
  by_cases hzero : config.captureChannels = 0 ∨ config.renderChannels = 0
  · rw [worldDuring, create_of_zero hzero]
    exact hworld
  · obtain ⟨hcapture, hrender⟩ := not_or.mp hzero
    obtain ⟨hmade, hengine⟩ := creates config ⟨_, hcapture⟩ ⟨_, hrender⟩ world hworld
    rw [worldDuring, create_of_ne_zero hcapture hrender]
    rcases hcreate : Engine.create (ε := ε) config ⟨_, hcapture⟩ ⟨_, hrender⟩ world with
      ⟨result, world'⟩
    rw [hcreate] at hmade hengine
    cases result with
    | error e => exact hmade
    | ok engine =>
      have hopened := History.after_invariant Engine.step steps (forwarded config.streamDelay)
        (hengine engine rfl)
      refine (History.after_invariant step hkeeps ops ⟨hasScratch_opened _ _ _ _, ?_, ?_⟩).2.1
      · exact remains _ hopened
      · rintro _ ⟨⟩
        exact hopened

/-- A handle on a recorded engine is created as one on the engine, and a delay forwarded goes on
record. -/
theorem create_recorded {config : Config} {world world' : ω} {h : Handle ε}
    (hcreate : create config world = (.ok h, world')) (calls : List Engine.Op) :
    create config (⟨world, calls⟩ : Recording ω) =
      (.ok h.recorded, ⟨world', calls ++ forwarded config.streamDelay⟩) := by
  obtain ⟨hcapture, hrender, made, hmade, rfl, rfl⟩ := exists_of_create hcreate
  rw [create_of_ne_zero hcapture hrender]
  simp only [Engine.create, hmade, Except.map]
  cases config.streamDelay with
  | agnostic =>
    rw [forwarded, List.append_nil]
    rfl
  | fixed ms => rfl

/-- A history of a handle on a recorded engine is that of the handle on the engine, with what was
asked meanwhile on record. -/
theorem after_recorded [LawfulEngine ε ω] {s : Handle ε × ω} (hscratch : s.1.HasScratch)
    (ops : List Op) (calls : List Engine.Op) :
    ∃ more, History.after step ops (recordedWith calls s) =
      recordedWith (calls ++ more) (History.after step ops s) := by
  induction ops generalizing s calls with
  | nil => exact ⟨[], by rw [List.append_nil]; rfl⟩
  | cons op ops ih =>
    have hscratch' := hscratch.of_geometry (geometry_step hscratch op s.2)
    obtain ⟨more, hmore⟩ := ih hscratch' (calls ++ engineCalls op s)
    refine ⟨engineCalls op s ++ more, ?_⟩
    rw [History.after_cons, step_recorded hscratch op s.2 calls, hmore, List.append_assoc]
    rfl

/-- The calls made on the engine of a handle from its creation on, as long as it is not dropped. -/
def callsDuring (ε : Type) {ω : Type} [Engine ε ω] (config : Config) (ops : List Op) (world : ω) :
    List Engine.Op :=
  (worldDuring (Recorded ε) config ops (⟨world, []⟩ : Recording ω)).calls

/-- At first only a delay known in advance has been forwarded. -/
theorem callsDuring_nil {config : Config} {world world' : ω} {h : Handle ε}
    (hcreate : create config world = (.ok h, world')) :
    callsDuring ε config [] world = forwarded config.streamDelay := by
  simp only [callsDuring, worldDuring, create_recorded hcreate []]
  rfl

/-- Every call on the handle adds what it asks. -/
theorem callsDuring_concat [LawfulEngine ε ω] {config : Config} {world world' : ω} {h : Handle ε}
    (hcreate : create config world = (.ok h, world')) (ops : List Op) (op : Op) :
    callsDuring ε config (ops ++ [op]) world =
      callsDuring ε config ops world ++ engineCalls op (History.after step ops (h, world')) := by
  have hscratch : h.HasScratch := Reachable.hasScratch (s := (h, world'))
    (History.Reachable.of_initial step ⟨config, world, hcreate⟩)
  obtain ⟨more, hmore⟩ := after_recorded (s := (h, world')) hscratch ops
    (forwarded config.streamDelay)
  have hscratch' := hscratch.of_geometry (geometry_after (s := (h, world')) hscratch ops)
  have hstep := step_recorded hscratch' op (History.after step ops (h, world')).2
    (forwarded config.streamDelay ++ more)
  simp only [callsDuring, worldDuring, create_recorded hcreate [], List.nil_append,
    History.after_append]
  change (History.after step [op] (History.after step ops (recordedWith _ (h, world')))).2.calls =
    (History.after step ops (recordedWith _ (h, world'))).2.calls ++ _
  rw [hmore, History.after_cons, History.after_nil, hstep]
  rfl

end Handle

end VoiceProcessing
