import VoiceProcessing.Proofs.FailureStatus
import VoiceProcessing.Proofs.FrontEnds
import VoiceProcessing.Proofs.LatestEvent

/-!
# The snapshot follows the capture frames

The snapshot of a handle, a processor or a handle variable is what the engine reported right after
the latest capture frame that succeeded, with zero for all that it left out. It is all zero as long
as there was no such frame and again once the engine has been given up. No other call touches it,
and no other call makes the engine report.

The three are treated as one kind of object with an engine inside.
-/

namespace VoiceProcessing

variable {ε ω : Type}

namespace Engine

/-- The statistics in an engine's reply, if the call was for them. -/
def Reply.report : Reply → Option EngineStats
  | .statistics stats => some stats
  | .done | .result _ | .channels _ _ | .samples _ _ | .reading _ => none

/-- What an engine reports at the end of a list of calls, if the last of them asks for it. -/
def finalReport [Engine ε ω] (engine : Option ε) (calls : List Op) (world : ω) :
    Option EngineStats :=
  engine.bind fun engine => (History.run step calls (engine, world)).1.getLast?.bind Reply.report

/-- Asked after another call, an engine reports from the state which that call left. -/
theorem finalReport_pair [Engine ε ω] (engine : ε) (call : Op) (world : ω) :
    finalReport (some engine) [call, .statistics] world =
      let s := (step call (engine, world)).2
      some (Engine.statistics s.1 s.2).1 := rfl

end Engine

/-- An object with an engine inside and a snapshot of the engine's statistics. -/
structure FrontEnd (ε ω : Type) where
  /-- The calls that can be made on the object. -/
  Op : Type
  Reply : Type
  State : Type
  Snapshot : Type
  step : Op → State × ω → Reply × State × ω
  /-- The calls on the engine that a call makes, in order. -/
  engineCalls : Op → State × ω → List Engine.Op
  /-- The engine, as long as there is one. -/
  engine : State → Option ε
  snapshot : State → Snapshot
  /-- The form in which the object shows statistics. -/
  present : Statistics → Snapshot
  /-- Whether a call is about a capture frame. -/
  isCapture : Op → Bool
  /-- Whether a reply tells of success. -/
  isSuccess : Reply → Bool
  /-- The call that gives up the engine. -/
  ending : Op

namespace FrontEnd

/-- Whether a call is about a capture frame and succeeds. -/
def captures (f : FrontEnd ε ω) (op : f.Op) (s : f.State × ω) : Bool :=
  f.isCapture op && f.isSuccess (f.step op s).1

variable [Engine ε ω]

/-- What the engine reports at the end of a call that is about a capture frame and succeeds. -/
def report (f : FrontEnd ε ω) (op : f.Op) (s : f.State × ω) : Option EngineStats :=
  if f.captures op s then Engine.finalReport (f.engine s.1) (f.engineCalls op s) s.2 else none

/-- How a call asks the engine for statistics: right after a capture frame that succeeds, and
otherwise not at all. -/
structure AsksOnce (f : FrontEnd ε ω) (op : f.Op) (s : f.State × ω) : Prop where
  of_captures : f.captures op s = true → ∃ call stats,
    f.engineCalls op s = [call, .statistics] ∧ call ≠ .statistics ∧ f.report op s = some stats
  of_not_captures : f.captures op s = false → .statistics ∉ f.engineCalls op s

/-- No call of a history is about a capture frame and succeeds. -/
def CapturesNone (f : FrontEnd ε ω) (ops : List f.Op) (s : f.State × ω) : Prop :=
  ∀ before op later, ops = before ++ op :: later →
    f.captures op (History.after f.step before s) = false

/-- From a state on, whatever calls are made, the snapshot is what the engine reported after the
latest capture frame that succeeded. -/
structure FollowsCaptures (f : FrontEnd ε ω) (s₀ : f.State × ω) : Prop where
  of_ended (ops : List f.Op) : f.ending ∈ ops →
    f.snapshot (History.after f.step ops s₀).1 = f.present {}
  of_none (ops : List f.Op) : f.ending ∉ ops → f.CapturesNone ops s₀ →
    f.snapshot (History.after f.step ops s₀).1 = f.present {}
  of_captured (before : List f.Op) (op : f.Op) (later : List f.Op) :
    f.ending ∉ before ++ op :: later →
    f.captures op (History.after f.step before s₀) = true →
    f.CapturesNone later (History.after f.step (before ++ [op]) s₀) →
    ∃ stats, f.report op (History.after f.step before s₀) = some stats ∧
      f.snapshot (History.after f.step (before ++ op :: later) s₀).1 = f.present stats.flatten
  kept (ops : List f.Op) (op : f.Op) : op ≠ f.ending →
    f.captures op (History.after f.step ops s₀) = false →
    f.snapshot (f.step op (History.after f.step ops s₀)).2.1 =
      f.snapshot (History.after f.step ops s₀).1
  asks (ops : List f.Op) (op : f.Op) : f.AsksOnce op (History.after f.step ops s₀)

/-- What is to be shown of single calls, in states with a property that all calls keep. -/
structure Refreshes (f : FrontEnd ε ω) (P : f.State × ω → Prop) : Prop where
  keeps : ∀ op s, P s → P (f.step op s).2
  writes : ∀ op s, P s → op ≠ f.ending →
    f.snapshot (f.step op s).2.1 =
      ((f.report op s).map fun stats => f.present stats.flatten).getD (f.snapshot s.1)
  asks : ∀ op s, P s → f.AsksOnce op s
  ends : ∀ s, P s → f.engine (f.step f.ending s).2.1 = none
  stays : ∀ op s, P s → f.engine s.1 = none → f.engine (f.step op s).2.1 = none
  clears : ∀ s, P s → f.engine s.1 = none → f.snapshot s.1 = f.present {}

variable {f : FrontEnd ε ω} {P : f.State × ω → Prop}

/-- Once the engine has been given up, it stays so. -/
theorem Refreshes.engine_after (h : f.Refreshes P) {ops : List f.Op} (hended : f.ending ∈ ops)
    {s : f.State × ω} (hs : P s) : f.engine (History.after f.step ops s).1 = none := by
  induction ops generalizing s with
  | nil => cases hended
  | cons op ops ih =>
    rw [History.after_cons]
    rcases List.mem_cons.mp hended with rfl | hended
    · have hstays := History.after_invariant f.step
        (P := fun s => P s ∧ f.engine s.1 = none)
        (fun op s hs => ⟨h.keeps op s hs.1, h.stays op s hs.1 hs.2⟩) ops
        (s := (f.step f.ending s).2) ⟨h.keeps _ s hs, h.ends s hs⟩
      exact hstays.2
    · exact ih hended (h.keeps op s hs)

/-- Nothing is reported if nothing is captured. -/
theorem latest_report_of_none {ops : List f.Op} {s : f.State × ω} (hnone : f.CapturesNone ops s) :
    History.latest f.step f.report ops s = none := by
  rw [History.latest_eq_none_iff]
  intro before op later hsplit
  rw [report, hnone before op later hsplit]
  rfl

/-- As long as the engine is not given up, the snapshot is that of the latest report, or as it was
if there is none. -/
theorem Refreshes.snapshot_after (h : f.Refreshes P) {ops : List f.Op} (hopen : f.ending ∉ ops)
    {s : f.State × ω} (hs : P s) :
    f.snapshot (History.after f.step ops s).1 =
      ((History.latest f.step f.report ops s).map fun stats =>
        f.present stats.flatten).getD (f.snapshot s.1) := by
  rw [← History.latest_map]
  exact History.observe_after _ (fun s => f.snapshot s.1) (fun op _ s hs => h.keeps op s hs)
    (fun op hop s hs => h.writes op s hs fun hend => hopen (hend ▸ hop)) hs

/-- It stays as long as nothing is captured. -/
theorem Refreshes.snapshot_after_of_none (h : f.Refreshes P) {ops : List f.Op}
    (hopen : f.ending ∉ ops) {s : f.State × ω} (hs : P s) (hnone : f.CapturesNone ops s) :
    f.snapshot (History.after f.step ops s).1 = f.snapshot s.1 := by
  rw [h.snapshot_after hopen hs, latest_report_of_none hnone]
  rfl

/-- What single calls do to the snapshot makes it follow the capture frames. -/
theorem Refreshes.followsCaptures (h : f.Refreshes P) {s₀ : f.State × ω} (hs₀ : P s₀)
    (hzero : f.snapshot s₀.1 = f.present {}) : f.FollowsCaptures s₀ := by
  have hall (ops : List f.Op) : P (History.after f.step ops s₀) :=
    History.after_invariant f.step h.keeps ops hs₀
  have hlatest (ops : List f.Op) (hopen : f.ending ∉ ops) :
      f.snapshot (History.after f.step ops s₀).1 =
        ((History.latest f.step f.report ops s₀).map fun stats =>
          f.present stats.flatten).getD (f.present {}) := by
    rw [h.snapshot_after hopen hs₀, hzero]
  refine ⟨?_, ?_, ?_, ?_, ?_⟩
  · intro ops hended
    exact h.clears _ (hall ops) (h.engine_after hended hs₀)
  · intro ops hopen hnone
    rw [hlatest ops hopen, latest_report_of_none hnone]
    rfl
  · intro before op later hopen hcaptures hnone
    obtain ⟨call, stats, -, -, hreport⟩ := (h.asks op _ (hall before)).of_captures hcaptures
    have hfound : History.latest f.step f.report (before ++ op :: later) s₀ = some stats :=
      (History.latest_eq_some_iff ..).mpr
        ⟨before, op, later, rfl, hreport, latest_report_of_none hnone⟩
    refine ⟨stats, hreport, ?_⟩
    rw [hlatest _ hopen, hfound]
    rfl
  · intro ops op hop hnone
    rw [h.writes op _ (hall ops) hop, report, hnone]
    rfl
  · intro ops op
    exact h.asks op _ (hall ops)

end FrontEnd

namespace Handle

variable [Engine ε ω]

/-- Whether a call is about a capture frame. -/
def Op.isCapture : Op → Bool
  | .processFloat .capture _ _ | .processPcm .capture _ _ => true
  | _ => false

/-- Whether a reply tells of success. -/
def Reply.isSuccess (reply : Reply) : Bool :=
  match reply.outcome with
  | some (.ok ()) => true
  | _ => false

/-- A handle as an object with a snapshot. -/
abbrev frontEnd (ε ω : Type) [Engine ε ω] : FrontEnd ε ω where
  Op := Op
  Reply := Reply
  State := Handle ε
  Snapshot := Statistics
  step := step
  engineCalls := engineCalls
  engine := engine
  snapshot := statistics
  present := id
  isCapture := Op.isCapture
  isSuccess := Reply.isSuccess
  ending := .destroy

/-- The snapshot is replaced by what the engine reports after a capture frame that succeeds. -/
theorem statistics_settle {F : Type} (direction : Direction) (frame out : F) (h : Handle ε)
    (result : Except EngineError Unit) (s : ε × ω) :
    (h.settle direction frame out result s).2.2.1.statistics =
      match direction, result with
      | .capture, .ok () => (Engine.statistics s.1 s.2).1.flatten
      | _, _ => h.statistics := by
  cases direction <;> cases result <;> rfl

/-- A call on a closed handle captures nothing. -/
theorem captures_of_closed {h : Handle ε} (hclosed : h.engine = none) (op : Op) (world : ω) :
    (frontEnd ε ω).captures op (h, world) = false := by
  simp only [FrontEnd.captures, step_closed hclosed]
  cases op <;> exact Bool.and_false _

/-- What a call on a handle does to the snapshot and asks of the engine's statistics, in one: the
call captures, the engine is asked after the frame, and its report is the new snapshot; or the call
does not capture, the engine is not asked, and the snapshot stays unless the handle is destroyed. -/
inductive Refresh (op : Op) (s : Handle ε × ω) : Prop
  | taken (call : Engine.Op) (stats : EngineStats)
      (captures : (frontEnd ε ω).captures op s = true)
      (calls : engineCalls op s = [call, .statistics]) (call_ne : call ≠ .statistics)
      (report : (frontEnd ε ω).report op s = some stats)
      (statistics : (step op s).2.1.statistics = stats.flatten)
  | kept (not_captures : (frontEnd ε ω).captures op s = false)
      (calls : .statistics ∉ engineCalls op s)
      (statistics : op ≠ .destroy → (step op s).2.1.statistics = s.1.statistics)

/-- A refused frame leads to nothing. -/
theorem refresh_of_refused {op : Op} {h : Handle ε} {world : ω} {e : Error}
    (houtcome : (step op (h, world)).1.outcome = some (.error e))
    (hsame : (step op (h, world)).2 = (h, world)) (hcalls : engineCalls op (h, world) = []) :
    Refresh op (h, world) := by
  refine .kept ?_ ?_ fun _ => ?_
  · simp only [FrontEnd.captures, Reply.isSuccess, houtcome]
    exact Bool.and_false _
  · rw [hcalls]
    exact List.not_mem_nil
  · rw [hsame]

/-- An accepted frame leads to a new snapshot if it is a capture frame and the engine succeeds. -/
theorem refresh_of_settle {F : Type} {op : Op} {h h' : Handle ε} {world : ω} {engine : ε}
    (hopen : h.engine = some engine) (call : Engine.Op) (hcall : call ≠ .statistics)
    {direction : Direction} (hdirection : op.isCapture = true ↔ direction = .capture)
    {frame out : F} {result : Except EngineError Unit}
    (houtcome : (step op (h, world)).1.outcome = some (result.mapError Error.ofEngine))
    (hcalls : engineCalls op (h, world) = call :: followUp direction result)
    (hstep : (step op (h, world)).2 =
      (h'.settle direction frame out result (Engine.step call (engine, world)).2).2.2)
    (hsnapshot : h'.statistics = h.statistics) :
    Refresh op (h, world) := by
  have hstatistics := statistics_settle direction frame out h' result
    (Engine.step call (engine, world)).2
  rw [← hstep, hsnapshot] at hstatistics
  cases result with
  | error e =>
    refine .kept ?_ ?_ fun _ => ?_
    · simp only [FrontEnd.captures, Reply.isSuccess, houtcome]
      exact Bool.and_false _
    · rw [hcalls]
      cases direction <;> simpa [followUp] using Ne.symm hcall
    · rw [hstatistics]
      cases direction <;> rfl
  | ok _ =>
    cases direction with
    | capture =>
      have hcaptures : (frontEnd ε ω).captures op (h, world) = true := by
        simp only [FrontEnd.captures, Reply.isSuccess, houtcome, hdirection.mpr rfl]
        rfl
      refine .taken call _ hcaptures hcalls hcall ?_ hstatistics
      simp only [FrontEnd.report, hcaptures, if_true, hopen, hcalls]
      rfl
    | render =>
      have hrender : op.isCapture = false := by
        rw [Bool.eq_false_iff, ne_eq, hdirection]
        exact Direction.noConfusion
      refine .kept ?_ ?_ fun _ => hstatistics
      · simp only [FrontEnd.captures, hrender, Bool.false_and]
      · rw [hcalls]
        simpa [followUp] using Ne.symm hcall

/-- Every call either refreshes the snapshot or leaves it and the engine's statistics alone. -/
theorem refresh_step [LawfulEngine ε ω] {h : Handle ε} (hscratch : h.HasScratch) (op : Op)
    (world : ω) : Refresh op (h, world) := by
  cases hengine : h.engine with
  | none =>
    refine .kept (captures_of_closed hengine op world) ?_ fun _ => ?_
    · rw [engineCalls_of_closed hengine]
      exact List.not_mem_nil
    · rw [step_closed hengine]
  | some engine =>
    cases op with
    | processFloat direction frame declared =>
      cases hrefusal : h.refusal direction frame.length declared with
      | some e =>
        have hstep := step_processFloat_of_refused hrefusal world
        exact refresh_of_refused (congrArg (fun s => s.1.outcome) hstep) (congrArg Prod.snd hstep)
          (engineCalls_processFloat_of_refused hrefusal world)
      | none =>
        have hstep := step_processFloat_of_accepted hscratch hengine hrefusal world
        have hstate := congrArg Prod.snd hstep
        refine refresh_of_settle hengine (.processFloat direction _) Engine.Op.noConfusion ?_ ?_
          (engineCalls_processFloat_of_accepted hscratch hengine hrefusal world) hstate rfl
        · cases direction <;> simp [Op.isCapture]
        · rw [hstep]
          exact congrArg some (result_settle direction _ _ _ _ _)
    | processPcm direction frame declared =>
      cases hrefusal : h.refusal direction frame.length declared with
      | some e =>
        have hstep := step_processPcm_of_refused hrefusal world
        exact refresh_of_refused (congrArg (fun s => s.1.outcome) hstep) (congrArg Prod.snd hstep)
          (engineCalls_processPcm_of_refused hrefusal world)
      | none =>
        have hstep := step_processPcm_of_accepted hengine hrefusal world
        have hstate := congrArg Prod.snd hstep
        refine refresh_of_settle hengine (.processPcm direction _) Engine.Op.noConfusion ?_ ?_
          (engineCalls_processPcm_of_accepted hscratch hengine hrefusal world) hstate rfl
        · cases direction <;> simp [Op.isCapture]
        · rw [hstep]
          exact congrArg some (result_settle direction _ _ _ _ _)
    | applyConfig config =>
      have hcalls := engineCalls_of_open hscratch hengine (.applyConfig config) world
      rcases hcall : Engine.applyConfig config engine world with ⟨result, engine', world'⟩
      simp only [asked, hcall] at hcalls
      cases result with
      | error e =>
        refine .kept rfl ?_ fun _ => ?_
        · simp [hcalls]
        · simp only [step, applyConfig, hengine, hcall]
      | ok _ =>
        refine .kept rfl ?_ fun _ => ?_
        · simp [hcalls]
        · simp only [step, applyConfig, hengine, hcall]
    | destroy =>
      refine .kept rfl ?_ fun hop => absurd rfl hop
      rw [engineCalls_of_open hscratch hengine]
      exact List.not_mem_nil
    | setStreamDelay delay =>
      refine .kept rfl ?_ fun _ => ?_
      · simp [engineCalls_of_open hscratch hengine, asked]
      · simp only [step, setStreamDelay, hengine]
    | reset | setAnalogLevel _ | setOutputMuted _ | setKeyPressed _ | streamDelayMs
    | recommendedLevel =>
      refine .kept rfl ?_ fun _ => ?_
      · simp [engineCalls_of_open hscratch hengine, asked]
      · rw [step_passedOn hengine rfl]

omit [Engine ε ω] in
/-- There is scratch for every channel, and the snapshot of a closed handle is all zero. -/
def Orderly (s : Handle ε × ω) : Prop :=
  s.1.HasScratch ∧ (s.1.engine = none → s.1.statistics = {})

/-- A new handle is orderly. -/
theorem orderly_of_create {config : Config} {world world' : ω} {h : Handle ε}
    (hcreate : create config world = (.ok h, world')) : Orderly (h, world') := by
  obtain ⟨_, _, _, -, rfl, -⟩ := exists_of_create hcreate
  exact ⟨hasScratch_opened _ _ _ _, fun _ => rfl⟩

/-- No call makes a handle disorderly. -/
theorem Orderly.step [LawfulEngine ε ω] (op : Op) (s : Handle ε × ω) (h : Orderly s) :
    Orderly (Handle.step op s).2 := by
  obtain ⟨handle, world⟩ := s
  obtain ⟨hscratch, hclosed⟩ := h
  refine ⟨hscratch.of_geometry (geometry_step hscratch op world), ?_⟩
  intro hafter
  cases hengine : handle.engine with
  | none =>
    rw [step_closed hengine]
    exact hclosed hengine
  | some engine =>
    by_cases hop : op = .destroy
    · rw [hop, step_destroy hengine]
    · rw [(engine_step hscratch hengine hop world).1] at hafter
      cases hafter

/-- Every reachable handle is orderly. -/
theorem Reachable.orderly [LawfulEngine ε ω] {s : Handle ε × ω} (hreachable : Reachable s) :
    Orderly s := by
  refine History.Reachable.invariant (P := Orderly) ?_ Orderly.step hreachable
  rintro ⟨h, world'⟩ ⟨config, world, hcreate⟩
  exact orderly_of_create hcreate

/-- The snapshot of a handle is refreshed as it should. -/
theorem refreshes [LawfulEngine ε ω] : (frontEnd ε ω).Refreshes Orderly where
  keeps := Orderly.step
  writes op s hs hop := by
    cases refresh_step hs.1 op s.2 with
    | taken call stats _ _ _ hreport hstatistics =>
      rw [hreport]
      exact hstatistics
    | kept hnone _ hstatistics =>
      rw [FrontEnd.report, hnone]
      exact hstatistics hop
  asks op s hs := by
    cases refresh_step hs.1 op s.2 with
    | taken call stats hcaptures hcalls hcall hreport _ =>
      exact ⟨fun _ => ⟨call, stats, hcalls, hcall, hreport⟩,
        fun hnone => absurd (hcaptures.symm.trans hnone) Bool.noConfusion⟩
    | kept hnone hcalls _ =>
      exact ⟨fun hcaptures => absurd (hcaptures.symm.trans hnone) Bool.noConfusion,
        fun _ => hcalls⟩
  ends s _ := engine_destroy s.1 s.2
  stays op s _ hclosed := by
    change (step op (s.1, s.2)).2.1.engine = none
    rw [step_closed hclosed]
    exact hclosed
  clears s hs hclosed := hs.2 hclosed

end Handle

namespace Processor

variable [Engine ε ω]

/-- Whether a call is about a capture frame. -/
def Op.isCapture : Op → Bool
  | .processCapture _ | .processCapturePcm _ => true
  | _ => false

/-- Whether a reply tells of success. -/
def Reply.isSuccess : Reply → Bool
  | .result (.ok _) | .float (.ok _) | .pcm (.ok _) => true
  | _ => false

/-- The calls on the engine that a call on a processor makes, in order. -/
def engineCalls (op : Op) (s : Processor ε × ω) : List Engine.Op :=
  let recorded : Processor (Recorded ε) := ⟨s.1.handle.recorded, s.1.config⟩
  (step op (recorded, (⟨s.2, []⟩ : Recording ω))).2.2.calls

/-- A processor as an object with a snapshot. -/
abbrev frontEnd (ε ω : Type) [Engine ε ω] : FrontEnd ε ω where
  Op := Op
  Reply := Reply
  State := Processor ε
  Snapshot := Statistics
  step := step
  engineCalls := engineCalls
  engine p := p.handle.engine
  snapshot := statistics
  present := id
  isCapture := Op.isCapture
  isSuccess := Reply.isSuccess
  ending := .close

omit [Engine ε ω] in
/-- The channel counts of the streams of a processor. -/
def counts (p : Processor ε) (direction : Direction) : Nat :=
  (p.handle.format direction).channelCount

/-- A processor calls its engine as its handle does. -/
theorem engineCalls_eq (op : Op) (s : Processor ε × ω) :
    engineCalls op s = Handle.engineCalls (op.onHandle s.1.counts) (inner s) := by
  have hcounts (direction : Direction) :
      (s.1.handle.recorded.format direction).channelCount = s.1.counts direction := by
    cases direction <;> rfl
  have hinner := inner_step (p := ⟨s.1.handle.recorded, s.1.config⟩) hcounts op
    (⟨s.2, []⟩ : Recording ω)
  exact congrArg (fun t => t.2.calls) hinner

/-- A call captures exactly if the call on the handle does. -/
theorem captures_eq (op : Op) (s : Processor ε × ω) :
    (frontEnd ε ω).captures op s =
      (Handle.frontEnd ε ω).captures (op.onHandle s.1.counts) (inner s) := by
  obtain ⟨p, world⟩ := s
  cases op with
  | processCapture frame =>
    simp only [FrontEnd.captures, step, processCapture, process, Op.onHandle, inner, Handle.step]
    rw [counts]
    rcases p.handle.processFloat .capture frame (p.handle.format .capture).channelCount world with
      fault | ⟨result, out, t⟩
    · rfl
    · cases result <;> rfl
  | processCapturePcm frame =>
    simp only [FrontEnd.captures, step, processCapturePcm, process, Op.onHandle, inner, Handle.step]
    rw [counts]
    rcases p.handle.processFloat .capture (Pcm.decodeFrame frame)
      (p.handle.format .capture).channelCount world with fault | ⟨result, out, t⟩
    · rfl
    · cases result <;> rfl
  | _ => rfl

/-- What the engine reports after a capture frame is what it reports to the handle. -/
theorem report_eq (op : Op) (s : Processor ε × ω) :
    (frontEnd ε ω).report op s =
      (Handle.frontEnd ε ω).report (op.onHandle s.1.counts) (inner s) := by
  rw [FrontEnd.report, FrontEnd.report, captures_eq]
  change (if _ then Engine.finalReport _ (engineCalls op s) _ else none) = _
  rw [engineCalls_eq]
  rfl

/-- Only the call that closes a processor is translated into the one that closes a handle. -/
theorem onHandle_eq_destroy_iff (counts : Direction → Nat) (op : Op) :
    op.onHandle counts = .destroy ↔ op = .close := by
  cases op <;> simp [Op.onHandle]

/-- The snapshot of a processor is refreshed as that of its handle. -/
theorem refreshes [LawfulEngine ε ω] :
    (frontEnd ε ω).Refreshes fun s => Handle.Orderly (inner s) := by
  have hinner (op : Op) (s : Processor ε × ω) :
      inner (step op s).2 = (Handle.step (op.onHandle s.1.counts) (inner s)).2 :=
    inner_step (p := s.1) (fun _ => rfl) op s.2
  refine ⟨?_, ?_, ?_, ?_, ?_, ?_⟩
  · intro op s hs
    rw [hinner]
    exact Handle.Orderly.step _ _ hs
  · intro op s hs hop
    have hwrites := Handle.refreshes.writes (op.onHandle s.1.counts) (inner s) hs
      (mt (onHandle_eq_destroy_iff _ op).mp hop)
    rw [report_eq]
    exact (congrArg (fun t => t.1.statistics) (hinner op s)).trans hwrites
  · intro op s hs
    have hasks := Handle.refreshes.asks (op.onHandle s.1.counts) (inner s) hs
    refine ⟨?_, ?_⟩
    · intro hcaptures
      rw [captures_eq] at hcaptures
      rw [report_eq]
      change ∃ call stats, engineCalls op s = _ ∧ _
      rw [engineCalls_eq]
      exact hasks.of_captures hcaptures
    · intro hnone
      rw [captures_eq] at hnone
      change _ ∉ engineCalls op s
      rw [engineCalls_eq]
      exact hasks.of_not_captures hnone
  · intro s _
    exact Handle.engine_destroy s.1.handle s.2
  · intro op s hs hclosed
    have hstays := Handle.refreshes.stays (op.onHandle s.1.counts) (inner s) hs hclosed
    exact (congrArg (fun t => t.1.engine) (hinner op s)).trans hstays
  · intro s hs hclosed
    exact hs.2 hclosed

end Processor

namespace Boundary.Variable

variable [Engine ε ω]

/-- Whether a call is about a capture frame. -/
def Op.isCapture : Op → Bool
  | .processFloat .capture _ _ | .processPcm .capture _ _ => true
  | _ => false

/-- Whether a reply tells of success. -/
def Reply.isSuccess : Reply → Bool
  | .status given | .float given _ | .pcm given _ => given.isSuccess
  | .done | .statistics _ | .reading _ => false

/-- A handle variable as an object with a snapshot. -/
abbrev frontEnd (ε ω : Type) [Engine ε ω] : FrontEnd ε ω where
  Op := Op
  Reply := Reply
  State := Variable ε
  Snapshot := StatisticsRecord
  step := step
  engineCalls := engineCalls
  engine v := v.bind Handle.engine
  snapshot := statistics
  present := .ofStatistics
  isCapture := Op.isCapture
  isSuccess := Reply.isSuccess
  ending := .destroy

/-- The status tells of success exactly if the result does, as no failure has that status. -/
theorem isSuccess_statusOf {result : Except Error Unit}
    (htruthful : ∀ e, result = .error e → e.code ≠ Status.ok) :
    (statusOf result).isSuccess = result.isOk := by
  cases result with
  | error e => exact beq_eq_false_iff_ne.mpr (htruthful e rfl)
  | ok _ => rfl

/-- A call with a handle captures exactly if the call on the handle does. -/
theorem captures_some [LawfulEngine ε ω] [TruthfulEngine ε ω] {op : Op} {onHandle : Handle.Op}
    (htranslated : op.onHandle = [onHandle]) {h : Handle ε} (hscratch : h.HasScratch) (world : ω) :
    (frontEnd ε ω).captures op (some h, world) =
      (Handle.frontEnd ε ω).captures onHandle (h, world) := by
  cases op with
  | processFloat direction frame channels =>
    obtain rfl := List.singleton_inj.mp htranslated
    cases direction with
    | render => rfl
    | capture =>
      have htruthful := Handle.code_ne_ok hscratch
        (.processFloat .capture (frame.getD []) (declaredCount channels)) world
      rcases hcall : h.processFloat .capture (frame.getD []) (declaredCount channels) world with
        fault | ⟨result, out, t⟩
      · simp only [FrontEnd.captures, step, processFloat, Handle.step, hcall]
        rfl
      · simp only [Handle.step, hcall] at htruthful
        have hsuccess : (statusOf result).isSuccess = result.isOk :=
          isSuccess_statusOf fun e hfailed => htruthful e (congrArg some hfailed)
        simp only [FrontEnd.captures, step, processFloat, Handle.step, hcall]
        cases result <;> exact hsuccess
  | processPcm direction frame channels =>
    obtain rfl := List.singleton_inj.mp htranslated
    cases direction with
    | render => rfl
    | capture =>
      have htruthful := Handle.code_ne_ok hscratch
        (.processPcm .capture (frame.getD []) (declaredCount channels)) world
      rcases hcall : h.processPcm .capture (frame.getD []) (declaredCount channels) world with
        fault | ⟨result, out, t⟩
      · simp only [FrontEnd.captures, step, processPcm, Handle.step, hcall]
        rfl
      · simp only [Handle.step, hcall] at htruthful
        have hsuccess : (statusOf result).isSuccess = result.isOk :=
          isSuccess_statusOf fun e hfailed => htruthful e (congrArg some hfailed)
        simp only [FrontEnd.captures, step, processPcm, Handle.step, hcall]
        cases result <;> exact hsuccess
  | statistics => cases htranslated
  | _ =>
    obtain rfl := List.singleton_inj.mp htranslated
    rfl

/-- What the engine reports after a capture frame is what it reports to the handle. -/
theorem report_some [LawfulEngine ε ω] [TruthfulEngine ε ω] {op : Op} (hop : op ≠ .destroy)
    {onHandle : Handle.Op} (htranslated : op.onHandle = [onHandle]) {h : Handle ε}
    (hscratch : h.HasScratch) (world : ω) :
    (frontEnd ε ω).report op (some h, world) =
      (Handle.frontEnd ε ω).report onHandle (h, world) := by
  rw [FrontEnd.report, FrontEnd.report, captures_some htranslated hscratch]
  change (if _ then Engine.finalReport _ (engineCalls op _) _ else none) = _
  rw [engineCalls_some hop htranslated]
  rfl

/-- Every call but looking at the snapshot is translated into one call. -/
theorem exists_onHandle_eq {op : Op} (hop : op ≠ .statistics) :
    ∃ onHandle, op.onHandle = [onHandle] := by
  cases op with
  | statistics => exact absurd rfl hop
  | _ => exact ⟨_, rfl⟩

omit [Engine ε ω] in
/-- A variable refers to an orderly open handle, if to any. -/
def Orderly (s : Variable ε × ω) : Prop :=
  ∀ h, s.1 = some h → Handle.Orderly (h, s.2) ∧ ∃ engine, h.engine = some engine

/-- A new handle variable is orderly, also if creation failed. -/
theorem orderly_of_create (record : ConfigRecord) (place : Option Status) (world : ω) :
    let made := create (ε := ε) record place world
    Orderly (made.1.1, made.2) := by
  intro made h hmade
  rcases hcreate : Handle.create (ε := ε) record.toConfig world with ⟨result, world'⟩
  simp only [made, create, hcreate] at hmade ⊢
  cases result with
  | error e => cases hmade
  | ok h' =>
    cases hmade
    obtain ⟨_, _, _, -, rfl, -⟩ := Handle.exists_of_create hcreate
    exact ⟨Handle.orderly_of_create hcreate, _, rfl⟩

/-- No call makes a variable disorderly. -/
theorem Orderly.step [LawfulEngine ε ω] (op : Op) (s : Variable ε × ω) (hs : Orderly s) :
    Orderly (Variable.step op s).2 := by
  obtain ⟨v, world⟩ := s
  cases v with
  | none =>
    rw [step_none]
    exact hs
  | some h =>
    obtain ⟨horderly, engine, hopen⟩ := hs h rfl
    by_cases hop : op = .destroy
    · rw [hop]
      intro _ hnone
      cases hnone
    · rw [step_some hop]
      intro h' hafter
      cases hafter
      refine ⟨History.after_invariant Handle.step Handle.Orderly.step _ horderly, ?_⟩
      -- Only giving up the engine would close the handle.
      have hclosed := Handle.isClosed_after horderly.1 (s := (h, world)) op.onHandle
      rw [destroy_mem_onHandle_iff, Handle.isClosed_of_open hopen] at hclosed
      apply Option.ne_none_iff_exists'.mp
      intro hnone
      exact (hclosed.mp (Option.isNone_iff_eq_none.mpr hnone)).elim Bool.noConfusion hop

/-- Without a handle no call captures. -/
theorem captures_none (op : Op) (world : ω) :
    (frontEnd ε ω).captures op ((none : Variable ε), world) = false := by
  cases op <;> exact Bool.and_false _

/-- With a handle, a call writes to the snapshot what the engine reports, if it does. -/
theorem statistics_some [LawfulEngine ε ω] [TruthfulEngine ε ω] {op : Op} (hop : op ≠ .destroy)
    {h : Handle ε} {world : ω} (horderly : Handle.Orderly (h, world)) :
    statistics (step op (some h, world)).2.1 =
      (((frontEnd ε ω).report op (some h, world)).map fun stats =>
        StatisticsRecord.ofStatistics stats.flatten).getD (.ofStatistics h.statistics) := by
  by_cases hlook : op = .statistics
  · subst hlook
    rfl
  · obtain ⟨onHandle, htranslated⟩ := exists_onHandle_eq hlook
    have hclosing : onHandle ≠ .destroy := by
      rintro rfl
      exact hop ((destroy_mem_onHandle_iff op).mp (htranslated ▸ List.mem_singleton_self _))
    have hwrites := Handle.refreshes.writes onHandle (h, world) horderly hclosing
    rw [report_some hop htranslated horderly.1, step_some hop, htranslated]
    refine (congrArg StatisticsRecord.ofStatistics hwrites).trans ?_
    cases (Handle.frontEnd ε ω).report onHandle (h, world) <;> rfl

/-- The engine of a variable is asked for statistics as that of its handle. -/
theorem asksOnce [LawfulEngine ε ω] [TruthfulEngine ε ω] (op : Op) (s : Variable ε × ω)
    (hs : Orderly s) : (frontEnd ε ω).AsksOnce op s := by
  have hquiet (hnone : (frontEnd ε ω).captures op s = false)
      (hcalls : .statistics ∉ engineCalls op s) : (frontEnd ε ω).AsksOnce op s :=
    ⟨fun hcaptures => absurd (hcaptures.symm.trans hnone) Bool.noConfusion, fun _ => hcalls⟩
  obtain ⟨v, world⟩ := s
  cases v with
  | none =>
    apply hquiet (captures_none op world)
    rw [engineCalls_none]
    exact List.not_mem_nil
  | some h =>
    obtain ⟨horderly, engine, hopen⟩ := hs h rfl
    by_cases hop : op = .destroy
    · subst hop
      apply hquiet rfl
      simp [engineCalls, step, destroy, Handle.destroy, Handle.recorded, hopen, Engine.destroy]
    · by_cases hlook : op = .statistics
      · subst hlook
        exact hquiet rfl List.not_mem_nil
      · obtain ⟨onHandle, htranslated⟩ := exists_onHandle_eq hlook
        have hasks := Handle.refreshes.asks onHandle (h, world) horderly
        refine ⟨?_, ?_⟩
        · intro hcaptures
          rw [captures_some htranslated horderly.1] at hcaptures
          rw [report_some hop htranslated horderly.1]
          change ∃ call stats, engineCalls op _ = _ ∧ _
          rw [engineCalls_some hop htranslated]
          exact hasks.of_captures hcaptures
        · intro hnone
          rw [captures_some htranslated horderly.1] at hnone
          change _ ∉ engineCalls op _
          rw [engineCalls_some hop htranslated]
          exact hasks.of_not_captures hnone

/-- The snapshot of a handle variable is refreshed as that of its handle. -/
theorem refreshes [LawfulEngine ε ω] [TruthfulEngine ε ω] :
    (frontEnd ε ω).Refreshes Orderly where
  keeps := Orderly.step
  writes := by
    rintro op ⟨v, world⟩ hs hop
    cases v with
    | none =>
      have hsame : (step op ((none : Variable ε), world)).2 = (none, world) := step_none op world
      rw [FrontEnd.report, captures_none]
      exact congrArg (fun s => statistics s.1) hsame
    | some h => exact statistics_some hop (hs h rfl).1
  asks := asksOnce
  ends := by
    rintro ⟨v, world⟩ _
    cases v <;> rfl
  stays := by
    rintro op ⟨v, world⟩ hs hclosed
    cases v with
    | none =>
      have hsame : (step op ((none : Variable ε), world)).2 = (none, world) := step_none op world
      exact congrArg (fun s => s.1.bind Handle.engine) hsame
    | some h =>
      obtain ⟨-, engine, hopen⟩ := hs h rfl
      cases hopen.symm.trans hclosed
  clears := by
    rintro ⟨v, world⟩ hs hclosed
    cases v with
    | none => rfl
    | some h =>
      obtain ⟨-, engine, hopen⟩ := hs h rfl
      cases hopen.symm.trans hclosed

end Boundary.Variable

/-- Whatever is made on an engine of a kind has a snapshot that follows its capture frames. -/
structure SnapshotsFollow (ε ω : Type) [Engine ε ω] : Prop where
  of_handle (config : Config) (world₀ : ω) (h : Handle ε) (world : ω) :
    Handle.create config world₀ = (.ok h, world) →
      (Handle.frontEnd ε ω).FollowsCaptures (h, world)
  of_processor (config : Config) (world₀ : ω) (p : Processor ε) (world : ω) :
    Processor.create config world₀ = (.ok p, world) →
      (Processor.frontEnd ε ω).FollowsCaptures (p, world)
  of_variable (record : Boundary.ConfigRecord) (place : Option Status) (world₀ : ω) :
    let made := Boundary.Variable.create (ε := ε) record place world₀
    (Boundary.Variable.frontEnd ε ω).FollowsCaptures (made.1.1, made.2)

/-- It is enough that the engine processes in place and never fails with the status of success. -/
theorem snapshotsFollow [Engine ε ω] [LawfulEngine ε ω] [TruthfulEngine ε ω] :
    SnapshotsFollow ε ω where
  of_handle config world₀ h world hcreate := by
    refine Handle.refreshes.followsCaptures (Handle.orderly_of_create hcreate) ?_
    obtain ⟨_, _, _, -, rfl, -⟩ := Handle.exists_of_create hcreate
    rfl
  of_processor config world₀ p world hmade := by
    rcases hcreate : Handle.create (ε := ε) config world₀ with ⟨result, world'⟩
    simp only [Processor.create, hcreate] at hmade
    cases result with
    | error e => cases hmade
    | ok h =>
      cases hmade
      refine Processor.refreshes.followsCaptures (Handle.orderly_of_create hcreate) ?_
      obtain ⟨_, _, _, -, rfl, -⟩ := Handle.exists_of_create hcreate
      rfl
  of_variable record place world₀ := by
    refine Boundary.Variable.refreshes.followsCaptures
      (Boundary.Variable.orderly_of_create record place world₀) ?_
    rcases hcreate : Handle.create (ε := ε) record.toConfig world₀ with ⟨result, world'⟩
    simp only [Boundary.Variable.create, hcreate]
    cases result with
    | error e => rfl
    | ok h =>
      obtain ⟨_, _, _, -, rfl, -⟩ := Handle.exists_of_create hcreate
      rfl

end VoiceProcessing
