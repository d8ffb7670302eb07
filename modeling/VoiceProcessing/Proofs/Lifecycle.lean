import VoiceProcessing.Proofs.FrontEnds
import VoiceProcessing.Proofs.NativeCalls

/-!
# The life of an instance of the native library

However a handle, a processor or a handle variable on the native engine is used, from its creation
to its end, the library sees one request for an instance and, if it grants one, that instance being
used and then destroyed once, with nothing after that. This covers initialisations that fail, ends
that are repeated and calls after the end.

The library may answer anything at all.
-/

namespace VoiceProcessing.Native

variable {σ ι : Type} {library : Library σ ι}

/-- The calls of a life that begins with the given configuration in the given state of the library:
none if a channel count is zero, only the request if it is refused, and otherwise the request, uses
of the instance, and its destruction. -/
def IsLife (library : Library σ ι) (config : Config) (state : σ) (calls : List (Call ι)) : Prop :=
  if config.captureChannels = 0 ∨ config.renderChannels = 0 then calls = []
  else
    match (library.answer (.create (.ofConfig config)) state).1 with
    | none => calls = [.create (.ofConfig config)]
    | some ref =>
      ∃ uses, calls = .create (.ofConfig config) :: (uses ++ [.destroy ref]) ∧
        ∀ call ∈ uses, call.Uses ref

/-- What the log must look like while an instance is in use, and after that: the state of a handle
tells which. -/
def Underway (before : List (Call ι)) (config : Config) (ref : ι)
    (s : Handle (NativeEngine library) × Session σ ι) : Prop :=
  s.1.HasScratch ∧ ∃ uses : List (Call ι), (∀ call ∈ uses, call.Uses ref) ∧
    match s.1.engine with
    | some e => e.ref = ref ∧ s.2.log = before ++ .create (.ofConfig config) :: uses
    | none => s.2.log = before ++ .create (.ofConfig config) :: (uses ++ [.destroy ref])

/-- No call on a handle disturbs the log of the life that is underway. -/
theorem Underway.step {before : List (Call ι)} {config : Config} {ref : ι} (op : Handle.Op)
    (s : Handle (NativeEngine library) × Session σ ι) (h : Underway before config ref s) :
    Underway before config ref (Handle.step op s).2 := by
  obtain ⟨handle, session⟩ := s
  obtain ⟨hscratch, uses, huses, hlog⟩ := h
  refine ⟨hscratch.of_geometry (Handle.geometry_step hscratch op session), ?_⟩
  -- A closed handle adds no call, the end of an open one the destruction, all else only uses.
  cases hengine : handle.engine with
  | none =>
    rw [Handle.step_closed hengine]
    exact ⟨uses, huses, hlog⟩
  | some e =>
    simp only [hengine] at hlog
    obtain ⟨rfl, hlog⟩ := hlog
    by_cases hop : op = .destroy
    · rw [hop, Handle.step_destroy hengine]
      refine ⟨uses, huses, ?_⟩
      change session.log ++ [.destroy e.ref] = _
      rw [hlog, List.append_assoc, List.cons_append]
    · obtain ⟨hopen, hworld⟩ := Handle.engine_step hscratch hengine hop session
      obtain ⟨hsame, later, hlater, husesLater⟩ :=
        NativeEngine.after_uses (Handle.asked op handle e session) e session
      refine ⟨uses ++ later, ?_, ?_⟩
      · intro call hcall
        exact (List.mem_append.mp hcall).elim (huses call) (husesLater call)
      · simp only [hopen, hworld, hsame, hlater, hlog, List.append_assoc, List.cons_append,
          and_self]

/-- A handle whose instance was just made and initialised is underway. -/
theorem Underway.of_made {config : Config} {capture render : StreamFormat}
    {e : NativeEngine library} {before : List (Call ι)} {s : Session σ ι}
    (hlog : s.log = before ++ [.create (.ofConfig config),
      .reset e.ref (.ofStream capture) (.ofStream render)]) :
    Underway before config e.ref
      (let made := History.after Engine.step (Handle.forwarded config.streamDelay) (e, s)
      (Handle.opened config capture render made.1, made.2)) := by
  obtain ⟨hsame, uses, hafter, huses⟩ :=
    NativeEngine.after_uses (Handle.forwarded config.streamDelay) e s
  refine ⟨Handle.hasScratch_opened _ _ _ _,
    .reset e.ref (.ofStream capture) (.ofStream render) :: uses, ?_, ?_⟩
  · intro call hcall
    rcases List.mem_cons.mp hcall with rfl | hcall
    · rfl
    · exact huses call hcall
  · change (_ = e.ref) ∧ _
    rw [hsame, hafter, hlog, List.append_assoc]
    exact ⟨rfl, rfl⟩

/-- A life underway ends, whatever is done before, with the destruction of the instance. -/
theorem Underway.lifetime {before : List (Call ι)} {config : Config} {ref : ι}
    {s : Handle (NativeEngine library) × Session σ ι} (h : Underway before config ref s)
    (ops : List Handle.Op) :
    ∃ uses : List (Call ι), (∀ call ∈ uses, call.Uses ref) ∧
      ((History.after Handle.step ops s).1.destroy (History.after Handle.step ops s).2).2.log =
        before ++ .create (.ofConfig config) :: (uses ++ [.destroy ref]) := by
  have hend : Underway before config ref
      (Handle.step .destroy (History.after Handle.step ops s)).2 :=
    Underway.step .destroy _ (History.after_invariant Handle.step Underway.step ops h)
  obtain ⟨-, uses, huses, hlog⟩ := hend
  have hclosed : (Handle.step .destroy (History.after Handle.step ops s)).2.1.engine = none :=
    Handle.engine_destroy _ _
  rw [hclosed] at hlog
  exact ⟨uses, huses, hlog⟩

/-- If the library grants an instance, it is destroyed at the end of the life of its handle, also if
that life is over before it has begun. -/
theorem uses_of_granted {config : Config} (hcapture : config.captureChannels ≠ 0)
    (hrender : config.renderChannels ≠ 0) {s : Session σ ι} {ref : ι}
    (hgranted : (library.answer (.create (.ofConfig config)) s.state).1 = some ref)
    (ops : List Handle.Op) :
    ∃ uses : List (Call ι), (∀ call ∈ uses, call.Uses ref) ∧
      (Handle.lifetime (NativeEngine library) config ops s).2.log =
        s.log ++ .create (.ofConfig config) :: (uses ++ [.destroy ref]) := by
  let reset : Call ι := .reset ref (.ofStream ⟨_, hcapture⟩) (.ofStream ⟨_, hrender⟩)
  let initialised := library.call reset (library.call (.create (.ofConfig config)) s).2
  have hlog : initialised.2.log = s.log ++ [.create (.ofConfig config), reset] :=
    List.append_assoc _ _ _
  by_cases hstatus : initialised.1 = Status.ok
  · have hcreate := (NativeEngine.create_of_some hgranted ⟨_, hcapture⟩ ⟨_, hrender⟩).trans
      (if_pos hstatus)
    simp only [Handle.lifetime, Handle.create_of_ne_zero hcapture hrender, hcreate]
    exact (Underway.of_made (e := ⟨ref, _, _⟩) hlog).lifetime ops
  · have hcreate := (NativeEngine.create_of_some hgranted ⟨_, hcapture⟩ ⟨_, hrender⟩).trans
      (if_neg hstatus)
    refine ⟨[reset], fun call hcall => List.mem_singleton.mp hcall ▸ rfl, ?_⟩
    simp only [Handle.lifetime, Handle.create_of_ne_zero hcapture hrender, hcreate]
    change initialised.2.log ++ [.destroy ref] = _
    rw [hlog, List.append_assoc]
    rfl

/-- The calls of any life of a handle are those of a life. -/
theorem isLife_of_handle (config : Config) (ops : List Handle.Op) (s : Session σ ι) :
    ∃ calls, (Handle.lifetime (NativeEngine library) config ops s).2.log = s.log ++ calls ∧
      IsLife library config s.state calls := by
  by_cases hzero : config.captureChannels = 0 ∨ config.renderChannels = 0
  · refine ⟨[], ?_, by rw [IsLife, if_pos hzero]⟩
    simp only [Handle.lifetime, Handle.create_of_zero hzero, List.append_nil]
  · have hchannels := not_or.mp hzero
    cases hanswer : (library.answer (.create (.ofConfig config)) s.state).1 with
    | none =>
      obtain ⟨s', hcreate, hlog⟩ := NativeEngine.create_of_none hanswer
        ⟨_, hchannels.1⟩ ⟨_, hchannels.2⟩
      refine ⟨[.create (.ofConfig config)], ?_, ?_⟩
      · simp only [Handle.lifetime, Handle.create_of_ne_zero hchannels.1 hchannels.2, hcreate, hlog]
      · simp only [IsLife, if_neg hzero, hanswer]
    | some ref =>
      obtain ⟨uses, huses, hlog⟩ := uses_of_granted hchannels.1 hchannels.2 hanswer ops
      refine ⟨.create (.ofConfig config) :: (uses ++ [.destroy ref]), hlog, ?_⟩
      simp only [IsLife, if_neg hzero, hanswer]
      exact ⟨uses, rfl, huses⟩

/-- What is seen of one object from one session on: after each list of calls while it lives, and at
the end of its life after each list of calls. A life adds the calls that it should, and once the
object is ended the session is and remains what it would be had the life ended there. -/
structure LivesOnce {Op : Type} (library : Library σ ι) (config : Config) (s : Session σ ι)
    (during life : List Op → Session σ ι) (ending : Op) : Prop where
  calls (ops : List Op) : ∃ calls, (life ops).log = s.log ++ calls ∧
    IsLife library config s.state calls
  during_ended (before later : List Op) : during (before ++ ending :: later) = life before
  life_ended (before later : List Op) : life (before ++ ending :: later) = life before

/-- Whatever is a handle by translation of its calls gives the instance one life, if its end is
translated into closing the handle. -/
theorem LivesOnce.of_handle {Op : Type} {config : Config} {s : Session σ ι}
    {during life : List Op → Session σ ι} {ending : Op} (translate : List Op → List Handle.Op)
    (hduring : ∀ ops,
      during ops = Handle.worldDuring (NativeEngine library) config (translate ops) s)
    (hlife : ∀ ops, life ops = during (ops ++ [ending]))
    (happend : ∀ ops more, translate (ops ++ more) = translate ops ++ translate more)
    (hending : translate [ending] = [.destroy]) :
    LivesOnce library config s during life ending := by
  have hhandle (ops : List Op) :
      life ops = (Handle.lifetime (NativeEngine library) config (translate ops) s).2 := by
    rw [hlife, hduring, happend, hending, Handle.lifetime_world]
  have hended (before later : List Op) : during (before ++ ending :: later) = life before := by
    have htranslated : translate (before ++ ending :: later) =
        translate before ++ .destroy :: translate later := by
      rw [happend, ← List.singleton_append, happend, hending, List.singleton_append]
    rw [hduring, htranslated, Handle.worldDuring_ended, hhandle]
  refine ⟨?_, hended, ?_⟩
  · intro ops
    rw [hhandle]
    exact isLife_of_handle config (translate ops) s
  · intro before later
    rw [hlife, List.append_assoc, List.cons_append, hended]

/-- Handles, processors and handle variables give the instance they ask for one life, whatever the
library answers and whatever is done to them. -/
theorem frontEnds_liveOnce (library : Library σ ι) (s : Session σ ι) :
    (∀ config, LivesOnce library config s
      (fun ops => Handle.worldDuring (NativeEngine library) config ops s)
      (fun ops => (Handle.lifetime (NativeEngine library) config ops s).2) .destroy) ∧
    (∀ config, LivesOnce library config s
      (fun ops => Processor.worldDuring (NativeEngine library) config ops s)
      (fun ops => (Processor.lifetime (NativeEngine library) config ops s).2) .close) ∧
    (∀ record place, LivesOnce library record.toConfig s
      (fun ops => Boundary.Variable.worldDuring (NativeEngine library) record place ops s)
      (fun ops => (Boundary.Variable.lifetime (NativeEngine library) record place ops s).2)
      .destroy) := by
  refine ⟨?_, ?_, ?_⟩
  · intro config
    exact LivesOnce.of_handle id (fun _ => rfl) (fun ops => Handle.lifetime_world config ops s)
      (fun _ _ => rfl) rfl
  · intro config
    exact LivesOnce.of_handle (List.map (Processor.Op.onHandle config.channelCount))
      (fun ops => Processor.worldDuring_eq config ops s)
      (fun ops => Processor.lifetime_world config ops s) (fun _ _ => List.map_append) rfl
  · intro record place
    exact LivesOnce.of_handle (List.flatMap Boundary.Variable.Op.onHandle)
      (fun ops => Boundary.Variable.worldDuring_eq record place ops s)
      (fun ops => Boundary.Variable.lifetime_world record place ops s)
      (fun _ _ => List.flatMap_append) rfl

end VoiceProcessing.Native
