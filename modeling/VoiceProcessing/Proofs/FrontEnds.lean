import VoiceProcessing.Boundary.Variable
import VoiceProcessing.Processor.Operations
import VoiceProcessing.Proofs.Recording

/-!
# Processors and handle variables as handles

A processor is a handle that is told its own channel counts; a handle variable is a handle whose
arguments are encoded, and nothing at all once the handle is closed. Every call on either is
translated into calls on a handle, and the translation is shown to keep the handle, its engine and
the world in step, through whole histories and whole lives.
-/

namespace VoiceProcessing

variable {ε ω : Type} [Engine ε ω]

namespace Processor

/-- The call on the handle that a call on a processor amounts to, given the channel counts of the
streams. -/
def Op.onHandle (counts : Direction → Nat) : Op → Handle.Op
  | .processCapture frame => .processFloat .capture frame (counts .capture)
  | .processCapturePcm frame =>
    .processFloat .capture (Pcm.decodeFrame frame) (counts .capture)
  | .processRender frame => .processFloat .render frame (counts .render)
  | .processRenderPcm frame => .processFloat .render (Pcm.decodeFrame frame) (counts .render)
  | .reset => .reset
  | .applyConfig config => .applyConfig config
  | .close => .destroy
  | .setStreamDelay delay => .setStreamDelay delay
  | .setAnalogLevel level => .setAnalogLevel level
  | .setOutputMuted muted => .setOutputMuted muted
  | .setKeyPressed pressed => .setKeyPressed pressed
  | .streamDelayMs => .streamDelayMs
  | .recommendedLevel => .recommendedLevel

omit [Engine ε ω] in
/-- The handle inside a processor, with its world. -/
def inner (s : Processor ε × ω) : Handle ε × ω :=
  (s.1.handle, s.2)

/-- A call on a processor does to the handle inside what the translated call does. -/
theorem inner_step {p : Processor ε} {counts : Direction → Nat}
    (hcounts : ∀ direction, (p.handle.format direction).channelCount = counts direction) (op : Op)
    (world : ω) :
    inner (step op (p, world)).2 = (Handle.step (op.onHandle counts) (p.handle, world)).2 := by
  cases op with
  | processCapture frame =>
    simp only [step, processCapture, process, hcounts, Op.onHandle, Handle.step]
    cases p.handle.processFloat .capture frame (counts .capture) world <;> rfl
  | processCapturePcm frame =>
    simp only [step, processCapturePcm, process, hcounts, Op.onHandle, Handle.step]
    cases p.handle.processFloat .capture (Pcm.decodeFrame frame) (counts .capture) world <;> rfl
  | processRender frame =>
    simp only [step, processRender, process, hcounts, Op.onHandle, Handle.step]
    cases p.handle.processFloat .render frame (counts .render) world <;> rfl
  | processRenderPcm frame =>
    simp only [step, processRenderPcm, processRender, process, hcounts, Op.onHandle, Handle.step]
    cases p.handle.processFloat .render (Pcm.decodeFrame frame) (counts .render) world <;> rfl
  | reset => rfl
  | applyConfig config =>
    simp only [step, applyConfig, Op.onHandle, Handle.step]
    rcases p.handle.applyConfig config world with ⟨result, h, world'⟩
    cases result <;> rfl
  | close => rfl
  | setStreamDelay delay =>
    by_cases hclosed : p.isClosed = true
    · have hengine : p.handle.engine = none := Option.isNone_iff_eq_none.mp hclosed
      rw [Op.onHandle, Handle.step_closed hengine]
      simp only [step, setStreamDelay, if_pos hclosed, inner]
    · simp only [step, setStreamDelay, if_neg hclosed]
      rfl
  | setAnalogLevel level =>
    by_cases hclosed : p.isClosed = true
    · have hengine : p.handle.engine = none := Option.isNone_iff_eq_none.mp hclosed
      rw [Op.onHandle, Handle.step_closed hengine]
      simp only [step, setAnalogLevel, if_pos hclosed, inner]
    · simp only [step, setAnalogLevel, if_neg hclosed]
      rfl
  | setOutputMuted muted => rfl
  | setKeyPressed pressed => rfl
  | streamDelayMs => rfl
  | recommendedLevel => rfl

/-- A history of a processor does to the handle inside what the translated history does. -/
theorem inner_after [LawfulEngine ε ω] {s : Processor ε × ω} {counts : Direction → Nat}
    (hcounts : ∀ direction, (s.1.handle.format direction).channelCount = counts direction)
    (hscratch : s.1.handle.HasScratch) (ops : List Op) :
    inner (History.after step ops s) =
      History.after Handle.step (ops.map (Op.onHandle counts)) (inner s) := by
  induction ops generalizing s with
  | nil => rfl
  | cons op ops ih =>
    have hstep := inner_step hcounts op s.2
    have hgeometry := Handle.geometry_step hscratch (op.onHandle counts) s.2
    rw [← hstep] at hgeometry
    -- The counts must still be those of the handle after the call, which keeps its geometry.
    rw [History.after_cons, List.map_cons, History.after_cons, ih, hstep]
    · rfl
    · intro direction
      rw [← hcounts direction, ← Handle.format_of_geometry hgeometry]
      rfl
    · exact hscratch.of_geometry hgeometry

/-- The world after making a processor and performing a list of calls on it, as long as it is not
dropped. -/
def worldDuring (ε : Type) {ω : Type} [Engine ε ω] (config : Config) (ops : List Op) (world : ω) :
    ω :=
  match create (ε := ε) config world with
  | (.error _, world) => world
  | (.ok p, world) => (History.after step ops (p, world)).2

/-- The calls on a processor do to the world what the translated calls on a handle do. -/
theorem worldDuring_eq [LawfulEngine ε ω] (config : Config) (ops : List Op) (world : ω) :
    worldDuring ε config ops world =
      Handle.worldDuring ε config (ops.map (Op.onHandle config.channelCount)) world := by
  rcases hcreate : Handle.create (ε := ε) config world with ⟨result, world'⟩
  simp only [worldDuring, create, Handle.worldDuring, hcreate]
  cases result with
  | error e => rfl
  | ok h =>
    have hcounts := Handle.channelCount_format_of_create hcreate
    have hscratch : h.HasScratch :=
      Handle.Reachable.hasScratch (s := (h, world'))
        (History.Reachable.of_initial Handle.step ⟨config, world, hcreate⟩)
    have hafter := inner_after (s := (⟨h, config⟩, world')) hcounts hscratch ops
    exact congrArg Prod.snd hafter

/-- Dropping a processor does to the world what closing it does. -/
theorem lifetime_world (config : Config) (ops : List Op) (world : ω) :
    (lifetime ε config ops world).2 = worldDuring ε config (ops ++ [.close]) world := by
  rcases hcreate : create (ε := ε) config world with ⟨result, world'⟩
  simp only [lifetime, worldDuring, hcreate]
  cases result with
  | error e => rfl
  | ok p =>
    have hend := History.after_append step ops [.close] (p, world')
    exact congrArg Prod.snd hend.symm

end Processor

namespace Boundary.Variable

/-- The calls on a handle that a call on a handle variable amounts to; looking at the snapshot is
none. -/
def Op.onHandle : Op → List Handle.Op
  | .destroy => [.destroy]
  | .reset => [.reset]
  | .applyConfig record => [.applyConfig record.toConfig]
  | .processFloat direction frame channels =>
    [.processFloat direction (frame.getD []) (declaredCount channels)]
  | .processPcm direction frame channels =>
    [.processPcm direction (frame.getD []) (declaredCount channels)]
  | .statistics => []
  | .setStreamDelayMs ms => [.setStreamDelay (streamDelayOfMs ms)]
  | .setAnalogLevel level => [.setAnalogLevel level]
  | .setOutputMuted muted => [.setOutputMuted muted]
  | .setKeyPressed pressed => [.setKeyPressed pressed]
  | .streamDelayMs => [.streamDelayMs]
  | .recommendedLevel => [.recommendedLevel]

/-- Without a handle every call leaves the variable and the world as they were. -/
theorem step_none (op : Op) (world : ω) :
    (step op ((none : Variable ε), world)).2 = (none, world) := by
  cases op <;> rfl

/-- So does every list of calls. -/
theorem after_none (ops : List Op) (world : ω) :
    History.after step ops ((none : Variable ε), world) = (none, world) := by
  induction ops with
  | nil => rfl
  | cons op ops ih => rw [History.after_cons, step_none, ih]

/-- With a handle every call but the last does to it what the translated calls do. -/
theorem step_some {op : Op} (hop : op ≠ .destroy) (h : Handle ε) (world : ω) :
    (step op (some h, world)).2 =
      (some (History.after Handle.step op.onHandle (h, world)).1,
        (History.after Handle.step op.onHandle (h, world)).2) := by
  cases op with
  | destroy => exact absurd rfl hop
  | processFloat direction frame channels =>
    simp only [step, processFloat, Op.onHandle, History.after_cons, History.after_nil, Handle.step]
    cases h.processFloat direction (frame.getD []) (declaredCount channels) world <;> rfl
  | processPcm direction frame channels =>
    simp only [step, processPcm, Op.onHandle, History.after_cons, History.after_nil, Handle.step]
    cases h.processPcm direction (frame.getD []) (declaredCount channels) world <;> rfl
  | reset => rfl
  | applyConfig record => rfl
  | statistics => rfl
  | setStreamDelayMs ms => rfl
  | setAnalogLevel level => rfl
  | setOutputMuted muted => rfl
  | setKeyPressed pressed => rfl
  | streamDelayMs => rfl
  | recommendedLevel => rfl

/-- Only the call that ends a variable is translated into the call that closes a handle. -/
theorem destroy_mem_onHandle_iff (op : Op) : .destroy ∈ op.onHandle ↔ op = .destroy := by
  cases op <;> simp [Op.onHandle]

omit [Engine ε ω] in
/-- A variable shows an open handle by referring to it, and a closed one by referring to nothing. -/
def Shows (s : Variable ε × ω) (t : Handle ε × ω) : Prop :=
  t.1.HasScratch ∧ s = (if t.1.isClosed then none else some t.1, t.2)

/-- A call on a variable that shows a handle leads to one that shows what the translated calls make
of the handle. -/
theorem Shows.step [LawfulEngine ε ω] (op : Op) (s : Variable ε × ω) (t : Handle ε × ω)
    (hshows : Shows s t) :
    Shows (Variable.step op s).2 (History.after Handle.step op.onHandle t) := by
  obtain ⟨hscratch, rfl⟩ := hshows
  have hclosed := Handle.isClosed_after hscratch op.onHandle
  rw [destroy_mem_onHandle_iff] at hclosed
  refine ⟨hscratch.of_geometry (Handle.geometry_after hscratch op.onHandle), ?_⟩
  by_cases hbefore : t.1.isClosed = true
  · have hsame : History.after Handle.step op.onHandle t = t :=
      Handle.after_closed (Option.isNone_iff_eq_none.mp hbefore) op.onHandle
    rw [if_pos hbefore, step_none, hsame, if_pos hbefore]
  · rw [if_neg hbefore]
    by_cases hop : op = .destroy
    · rw [if_pos (hclosed.mpr (.inr hop)), hop]
      rfl
    · have hafter : ¬(History.after Handle.step op.onHandle t).1.isClosed = true :=
        fun h => (hclosed.mp h).elim hbefore hop
      rw [if_neg hafter, step_some hop]

/-- A new handle variable shows the handle that was created, if any. -/
theorem Shows.of_create {config : Config} {world world' : ω} {h : Handle ε}
    (hcreate : Handle.create config world = (.ok h, world')) :
    Shows (some h, world') (h, world') := by
  obtain ⟨_, _, _, -, rfl, -⟩ := Handle.exists_of_create hcreate
  exact ⟨Handle.hasScratch_opened _ _ _ _, rfl⟩

/-- The world after creating a handle and performing a list of calls on its variable. -/
def worldDuring (ε : Type) {ω : Type} [Engine ε ω] (record : ConfigRecord) (place : Option Status)
    (ops : List Op) (world : ω) : ω :=
  let ((v, _), world) := create (ε := ε) record place world
  (History.after Variable.step ops (v, world)).2

/-- The calls on a handle variable do to the world what the translated calls on a handle do. -/
theorem worldDuring_eq [LawfulEngine ε ω] (record : ConfigRecord) (place : Option Status)
    (ops : List Op) (world : ω) :
    worldDuring ε record place ops world =
      Handle.worldDuring ε record.toConfig (ops.flatMap Op.onHandle) world := by
  rcases hcreate : Handle.create (ε := ε) record.toConfig world with ⟨result, world'⟩
  simp only [worldDuring, create, Handle.worldDuring, hcreate]
  cases result with
  | error e => rw [after_none]
  | ok h =>
    obtain ⟨-, hend⟩ := History.after_related Shows.step ops (Shows.of_create hcreate)
    rw [hend]

/-- The end of a handle variable is the call that destroys its handle. -/
theorem lifetime_world (record : ConfigRecord) (place : Option Status) (ops : List Op)
    (world : ω) :
    (lifetime ε record place ops world).2 =
      worldDuring ε record place (ops ++ [.destroy]) world := by
  simp only [lifetime, worldDuring, History.after_append]
  rfl

/-- A variable as a program has it after creating a handle, which may have failed. -/
def Created (s : Variable ε × ω) : Prop :=
  ∃ record place world stored, create record place world = ((s.1, stored), s.2)

/-- The variables, with the worlds of their engines, that programs can bring about. -/
def Reachable (s : Variable ε × ω) : Prop :=
  History.Reachable step Created s

/-- A handle that programs can refer to is one that callers can bring about. -/
theorem Reachable.handle {h : Handle ε} {world : ω} (hreachable : Reachable (some h, world)) :
    Handle.Reachable (h, world) := by
  apply History.Reachable.invariant
    (P := fun s : Variable ε × ω => ∀ h, s.1 = some h → Handle.Reachable (h, s.2)) ?_ ?_
    hreachable h rfl
  · intro s hcreated h hhandle
    obtain ⟨v, world'⟩ := s
    obtain ⟨record, place, world, stored, hmade⟩ := hcreated
    rcases hcreate : Handle.create (ε := ε) record.toConfig world with ⟨result, world''⟩
    simp only [create, hcreate] at hmade
    cases result with
    | error e =>
      cases hmade
      cases hhandle
    | ok made =>
      cases hmade
      cases hhandle
      exact History.Reachable.of_initial Handle.step ⟨record.toConfig, world, hcreate⟩
  · intro op s hbefore h hafter
    obtain ⟨v, world⟩ := s
    cases v with
    | none =>
      rw [step_none] at hafter
      cases hafter
    | some before =>
      by_cases hop : op = .destroy
      · rw [hop] at hafter
        cases hafter
      · rw [step_some hop] at hafter ⊢
        cases hafter
        exact (hbefore before rfl).later Handle.step op.onHandle

/-- The calls on the engine that a call on a handle variable makes, in order. -/
def engineCalls (op : Op) (s : Variable ε × ω) : List Engine.Op :=
  (step op (s.1.map Handle.recorded, (⟨s.2, []⟩ : Recording ω))).2.2.calls

/-- Without a handle there is no engine to call. -/
theorem engineCalls_none (op : Op) (world : ω) :
    engineCalls op ((none : Variable ε), world) = [] := by
  rw [engineCalls, Option.map_none, step_none]

/-- With a handle the engine is called by the call that the variable's call amounts to. -/
theorem engineCalls_some {op : Op} (hop : op ≠ .destroy) {onHandle : Handle.Op}
    (htranslated : op.onHandle = [onHandle]) (h : Handle ε) (world : ω) :
    engineCalls op (some h, world) = Handle.engineCalls onHandle (h, world) := by
  rw [engineCalls, Option.map_some, step_some hop, htranslated]
  rfl

end Boundary.Variable

end VoiceProcessing
