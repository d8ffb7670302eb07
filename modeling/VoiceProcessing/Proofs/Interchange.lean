import VoiceProcessing.Proofs.Closed
import VoiceProcessing.Proofs.StatusCodes

/-!
# Interchangeable engines

What a caller sees of a handle or a processor has two sources: the engine, and what surrounds it.
To tell them apart, engines are considered that refuse nothing and give back every frame as it was.
On two such engines, handles or processors made for the same configuration answer every list of
calls alike, and always have the same formats, the same delay hint and the same configuration. The
bypass engine is one of them, and so is the native engine on a library that grants every instance,
always succeeds, and leaves samples alone.

What an engine reports of itself is left out: its statistics, and the values of its readings.
-/

namespace VoiceProcessing

namespace Handle

/-- What can be seen of a handle besides its snapshot. -/
structure Face where
  closed : Bool
  format : Direction → StreamFormat
  streamDelay : StreamDelay

/-- A reply without the value that an engine has reported, but with the fact that there is one. -/
def Reply.masked : Reply → Reply
  | .reading value => .reading (value.map fun _ => 0)
  | reply => reply

variable {ε ω ε' ω' : Type}

/-- The face of a handle. -/
def face (h : Handle ε) : Face :=
  ⟨h.isClosed, h.format, h.streamDelay⟩

/-- Which frames are refused can be seen from the face of a handle. -/
theorem refusal_of_face {h : Handle ε} {h' : Handle ε'} (hface : h.face = h'.face) :
    h.refusal = h'.refusal := by
  obtain ⟨hclosed, hformat, -⟩ := Face.mk.inj hface
  funext direction length declared
  rw [refusal, refusal, hclosed, hformat]

/-- The result of a call that is refused for the given reason, if any, and succeeds otherwise. -/
def unlessRefused : Option Error → Except Error Unit
  | some e => .error e
  | none => .ok ()

/-- What a call is answered by a handle whose engine refuses nothing and leaves frames alone. -/
def plainReply (h : Handle ε) : Op → Reply
  | .processFloat direction frame declared =>
    .float (unlessRefused (h.refusal direction frame.length declared)) frame
  | .processPcm direction frame declared =>
    .pcm (unlessRefused (h.refusal direction frame.length declared)) frame
  | .reset | .applyConfig _ => .result (if h.isClosed then .error .closed else .ok ())
  | .streamDelayMs | .recommendedLevel => .reading (if h.isClosed then none else some 0)
  | .destroy | .setStreamDelay _ | .setAnalogLevel _ | .setOutputMuted _ | .setKeyPressed _ => .done

/-- Such answers can be told from the face of a handle. -/
theorem plainReply_of_face {h : Handle ε} {h' : Handle ε'} (hface : h.face = h'.face) :
    h.plainReply = h'.plainReply := by
  have hclosed : h.isClosed = h'.isClosed := (Face.mk.inj hface).1
  funext op
  cases op <;> simp only [plainReply, refusal_of_face hface, hclosed]

variable [Engine ε ω] [Engine ε' ω']

/-- The engine of a handle, in a world, refuses nothing that the handle asks of it and gives back
frames that fit as they were. -/
structure Obeys (h : Handle ε) (engine : ε) (world : ω) : Prop where
  resets : (Engine.reset engine world).1 = .ok ()
  applies (config : Config) : (Engine.applyConfig config engine world).1 = .ok ()
  keepsFloat (direction : Direction) (frame : List Binary32) :
    frame.length = (h.format direction).frameSamples →
      let channels := split (h.format direction).channelCount frame
      let answer := Engine.processFloat direction channels engine world
      answer.1 = .ok () ∧ answer.2.1 = channels
  keepsPcm (direction : Direction) (frame : List Int16) :
    frame.length = (h.format direction).frameSamples →
      let answer := Engine.processPcm direction frame engine world
      answer.1 = .ok () ∧ answer.2.1 = frame

/-- A frame of numbers that fits comes back as it was. -/
theorem Obeys.passFloat {h : Handle ε} {engine : ε} {world : ω} (hobeys : h.Obeys engine world)
    {direction : Direction} {frame : List Binary32}
    (hlength : frame.length = (h.format direction).frameSamples) :
    (h.passFloat direction frame engine world).1 = .ok () ∧
      (h.passFloat direction frame engine world).2.1 = frame := by
  obtain ⟨hresult, hchannels⟩ := hobeys.keepsFloat direction frame hlength
  simp only [Handle.passFloat, hresult, hchannels]
  exact ⟨rfl, interleave_split (h.format direction).channelCount_pos frame⟩

/-- A frame of 16-bit samples that fits comes back as it was. -/
theorem Obeys.passPcm {h : Handle ε} {engine : ε} {world : ω} (hobeys : h.Obeys engine world)
    {direction : Direction} {frame : List Int16}
    (hlength : frame.length = (h.format direction).frameSamples) :
    (h.passPcm direction frame engine world).1 = .ok () ∧
      (h.passPcm direction frame engine world).2.1 = frame := by
  obtain ⟨hresult, hsamples⟩ := hobeys.keepsPcm direction frame hlength
  simp only [Handle.passPcm, hresult, hsamples]
  exact ⟨rfl, rfl⟩

/-- If the engine obeys, then nothing of an answer comes from it but the value of a reading. -/
theorem masked_step [LawfulEngine ε ω] {h : Handle ε} (hscratch : h.HasScratch) {world : ω}
    (hobeys : ∀ engine, h.engine = some engine → h.Obeys engine world) (op : Op) :
    (step op (h, world)).1.masked = h.plainReply op := by
  cases hengine : h.engine with
  | none =>
    have hclosed : h.isClosed = true := Option.isNone_iff_eq_none.mpr hengine
    rw [step_closed hengine]
    cases op <;> simp only [Op.closedReply, plainReply, refusal_of_closed hengine, hclosed,
      if_true] <;> rfl
  | some engine =>
    have hopen : h.isClosed = false := isClosed_of_open hengine
    have hobeys := hobeys engine hengine
    cases op with
    | processFloat direction frame declared =>
      cases hrefusal : h.refusal direction frame.length declared with
      | some e =>
        rw [step_processFloat_of_refused hrefusal, plainReply, hrefusal]
        rfl
      | none =>
        obtain ⟨-, -, hlength⟩ := open_of_refusal_eq_none hrefusal
        obtain ⟨hresult, hframe⟩ := hobeys.passFloat hlength
        rw [step_processFloat_of_accepted hscratch hengine hrefusal, plainReply, hrefusal, hresult,
          hframe]
        rfl
    | processPcm direction frame declared =>
      cases hrefusal : h.refusal direction frame.length declared with
      | some e =>
        rw [step_processPcm_of_refused hrefusal, plainReply, hrefusal]
        rfl
      | none =>
        obtain ⟨-, -, hlength⟩ := open_of_refusal_eq_none hrefusal
        obtain ⟨hresult, hframe⟩ := hobeys.passPcm hlength
        rw [step_processPcm_of_accepted hengine hrefusal, plainReply, hrefusal, hresult, hframe]
        rfl
    | reset =>
      simp only [step, reset, hengine, hobeys.resets, plainReply, hopen]
      rfl
    | applyConfig config =>
      have hresult := hobeys.applies config
      rcases hcall : Engine.applyConfig config engine world with ⟨result, engine', world'⟩
      rw [hcall] at hresult
      cases hresult
      simp only [step, applyConfig, hengine, hcall, plainReply, hopen]
      rfl
    | streamDelayMs | recommendedLevel =>
      simp only [step, streamDelayMs, recommendedLevel, read, hengine, plainReply, hopen]
      rfl
    | destroy | setStreamDelay _ | setAnalogLevel _ | setOutputMuted _ | setKeyPressed _ => rfl

/-- Whether a configuration was accepted shows in the answer, also without readings. -/
theorem appliedConfig_of_masked {op : Op} {s : Handle ε × ω} {t : Handle ε' × ω'}
    (hmasked : (step op s).1.masked = (step op t).1.masked) :
    appliedConfig op s = appliedConfig op t := by
  cases op with
  | applyConfig config =>
    unfold appliedConfig
    generalize (step (.applyConfig config) s).1 = reply at hmasked ⊢
    generalize (step (.applyConfig config) t).1 = reply' at hmasked ⊢
    cases reply with
    | result result =>
      cases reply' with
      | result result' => cases hmasked; rfl
      | _ => cases hmasked
    | _ =>
      cases reply' with
      | result result' => cases hmasked
      | _ => rfl
  | _ => rfl

/-- A delay is given alike by calls that are answered alike. -/
theorem delayGiven_of_masked {op : Op} {s : Handle ε × ω} {t : Handle ε' × ω'}
    (hmasked : (step op s).1.masked = (step op t).1.masked) :
    delayGiven op s = delayGiven op t := by
  cases op with
  | setStreamDelay delay => rfl
  | _ => exact congrArg (Option.map Config.streamDelay) (appliedConfig_of_masked hmasked)

/-- A call on handles of the same face leaves them with the same face if it is answered alike. -/
theorem face_step [LawfulEngine ε ω] [LawfulEngine ε' ω'] {s : Handle ε × ω} {t : Handle ε' × ω'}
    (hs : s.1.HasScratch) (ht : t.1.HasScratch) (hface : s.1.face = t.1.face) {op : Op}
    (hmasked : (step op s).1.masked = (step op t).1.masked) :
    (step op s).2.1.face = (step op t).2.1.face := by
  obtain ⟨hclosed, hformat, hdelay⟩ := Face.mk.inj hface
  cases hengine : s.1.engine with
  | none =>
    have hengine' : t.1.engine = none :=
      Option.isNone_iff_eq_none.mp (hclosed.symm.trans (Option.isNone_iff_eq_none.mpr hengine))
    rw [step_closed hengine, step_closed hengine']
    exact hface
  | some engine =>
    obtain ⟨engine', hengine'⟩ := exists_engine (hclosed.symm.trans (isClosed_of_open hengine))
    rw [face, face, Face.mk.injEq]
    refine ⟨?_, ?_, ?_⟩
    · rw [Bool.eq_iff_iff, isClosed_step hs, isClosed_step ht, hclosed]
    · rw [format_of_geometry (geometry_step hs op s.2),
        format_of_geometry (geometry_step ht op t.2), hformat]
    · rw [(delay_step hs hengine op s.2).2, (delay_step ht hengine' op t.2).2,
        delayGiven_of_masked hmasked, hdelay]

end Handle

/-- An engine that is always made, and obeys on every handle that callers can bring about. -/
structure Engine.Obedient (ε : Type) {ω : Type} [Engine ε ω] : Prop where
  creates (config : Config) (capture render : StreamFormat) (world : ω) :
    ∃ engine world', Engine.create (ε := ε) config capture render world = (.ok engine, world')
  obeys {s : Handle ε × ω} : Handle.Reachable s →
    ∀ engine, s.1.engine = some engine → s.1.Obeys engine s.2

/-- Two creations have the same error, or what they make is related. -/
inductive MadeAlike {A B ω ω' : Type} (related : A × ω → B × ω' → Prop) :
    Except Error A × ω → Except Error B × ω' → Prop
  | failed (e : Error) (world : ω) (world' : ω') :
    MadeAlike related (.error e, world) (.error e, world')
  | made {a : A} {world : ω} {b : B} {world' : ω'} (h : related (a, world) (b, world')) :
    MadeAlike related (.ok a, world) (.ok b, world')

/-- Related things are related in every way that follows. -/
theorem MadeAlike.imp {A B ω ω' : Type} {related weaker : A × ω → B × ω' → Prop}
    {x : Except Error A × ω} {y : Except Error B × ω'} (halike : MadeAlike related x y)
    (himp : ∀ s t, related s t → weaker s t) : MadeAlike weaker x y := by
  cases halike with
  | failed e world world' => exact .failed e world world'
  | made h => exact .made (himp _ _ h)

variable {ε ω ε' ω' : Type} [Engine ε ω] [LawfulEngine ε ω] [Engine ε' ω'] [LawfulEngine ε' ω']

namespace Handle

/-- Handles that callers can bring about and that look the same. -/
structure LookAlike (s : Handle ε × ω) (t : Handle ε' × ω') : Prop where
  left : Reachable s
  right : Reachable t
  face : s.1.face = t.1.face

/-- On obedient engines, handles that look the same answer every call alike, and look the same after
it. -/
theorem LookAlike.step (hε : Engine.Obedient ε) (hε' : Engine.Obedient ε') {s : Handle ε × ω}
    {t : Handle ε' × ω'} (halike : LookAlike s t) (op : Op) :
    (Handle.step op s).1.masked = (Handle.step op t).1.masked ∧
      LookAlike (Handle.step op s).2 (Handle.step op t).2 := by
  obtain ⟨hs, ht, hface⟩ := halike
  have hmasked : (Handle.step op s).1.masked = (Handle.step op t).1.masked := by
    rw [masked_step hs.hasScratch (hε.obeys hs), masked_step ht.hasScratch (hε'.obeys ht),
      plainReply_of_face hface]
  exact ⟨hmasked, hs.later Handle.step [op], ht.later Handle.step [op],
    face_step hs.hasScratch ht.hasScratch hface hmasked⟩

/-- So do they through every list of calls. -/
theorem LookAlike.run (hε : Engine.Obedient ε) (hε' : Engine.Obedient ε') {s : Handle ε × ω}
    {t : Handle ε' × ω'} (halike : LookAlike s t) (ops : List Op) :
    (Handle.run ops s).1.map Reply.masked = (Handle.run ops t).1.map Reply.masked ∧
      LookAlike (Handle.run ops s).2 (Handle.run ops t).2 :=
  History.run_looksAlike (R := LookAlike) (fun op _ _ halike => halike.step hε hε' op) ops halike

omit [LawfulEngine ε ω] [LawfulEngine ε' ω'] in
/-- On obedient engines, handles are made alike. -/
theorem madeAlike_create (hε : Engine.Obedient ε) (hε' : Engine.Obedient ε') (config : Config)
    (world : ω) (world' : ω') :
    MadeAlike (fun (s : Handle ε × ω) (t : Handle ε' × ω') => LookAlike s t)
      (create config world) (create config world') := by
  by_cases hzero : config.captureChannels = 0 ∨ config.renderChannels = 0
  · rw [create_of_zero hzero, create_of_zero hzero]
    exact .failed _ world world'
  · obtain ⟨hcapture, hrender⟩ := not_or.mp hzero
    obtain ⟨engine, made, hmade⟩ := hε.creates config ⟨_, hcapture⟩ ⟨_, hrender⟩ world
    obtain ⟨engine', made', hmade'⟩ := hε'.creates config ⟨_, hcapture⟩ ⟨_, hrender⟩ world'
    have hcreate := create_of_ne_zero (ε := ε) hcapture hrender world
    have hcreate' := create_of_ne_zero (ε := ε') hcapture hrender world'
    simp only [hmade] at hcreate
    simp only [hmade'] at hcreate'
    rw [hcreate, hcreate']
    exact .made ⟨History.Reachable.of_initial step ⟨config, world, hcreate⟩,
      History.Reachable.of_initial step ⟨config, world', hcreate'⟩, rfl⟩

end Handle

namespace Processor

/-- An answer without the value that an engine has reported, but with the fact that there is one. -/
def Reply.masked : Reply → Reply
  | .reading value => .reading (value.map fun _ => 0)
  | reply => reply

/-- A processor passes the value of a reading on and does nothing else with it. -/
theorem masked_answer (op : Op) (closed : Bool) (reply : Handle.Reply) :
    (op.answer closed reply).masked = op.answer closed reply.masked := by
  cases op <;> cases reply <;> rfl

/-- Processors that callers can bring about and that look the same, with the same configuration. -/
structure LookAlike (s : Processor ε × ω) (t : Processor ε' × ω') : Prop where
  left : Reachable s
  right : Reachable t
  face : s.1.handle.face = t.1.handle.face
  config : s.1.config = t.1.config

/-- The handles inside look the same, too. -/
theorem LookAlike.inner {s : Processor ε × ω} {t : Processor ε' × ω'} (halike : LookAlike s t) :
    Handle.LookAlike (inner s) (inner t) :=
  ⟨halike.left.inner, halike.right.inner, halike.face⟩

/-- On obedient engines, processors that look the same answer every call alike, and look the same
after it. -/
theorem LookAlike.step (hε : Engine.Obedient ε) (hε' : Engine.Obedient ε') {s : Processor ε × ω}
    {t : Processor ε' × ω'} (halike : LookAlike s t) (op : Op) :
    (Processor.step op s).1.masked = (Processor.step op t).1.masked ∧
      LookAlike (Processor.step op s).2 (Processor.step op t).2 := by
  obtain ⟨hclosed, hformat, -⟩ := Handle.Face.mk.inj halike.face
  obtain ⟨hmasked, hafter⟩ := halike.inner.step hε hε' (op.onHandle s.1.counts)
  -- Both are called with the same channel counts, which are those of their streams.
  have hcounts (direction : Direction) :
      (s.1.handle.format direction).channelCount = s.1.counts direction := rfl
  have hcounts' (direction : Direction) :
      (t.1.handle.format direction).channelCount = s.1.counts direction :=
    congrArg StreamFormat.channelCount (congrFun hformat.symm direction)
  obtain ⟨hreply, hparts⟩ := step_parts hcounts op s.2
  obtain ⟨hreply', hparts'⟩ := step_parts hcounts' op t.2
  refine ⟨?_, halike.left.later Processor.step [op], halike.right.later Processor.step [op], ?_, ?_⟩
  · have hanswer := congrArg (op.answer s.1.handle.isClosed) hmasked
    rw [← masked_answer, ← masked_answer] at hanswer
    rw [hreply, hreply']
    simp only [pairedStep, parts]
    rw [← hclosed]
    exact hanswer
  · have hleft := congrArg (fun parts => parts.1.1.face) hparts
    have hright := congrArg (fun parts => parts.1.1.face) hparts'
    exact hleft.trans (hafter.face.trans hright.symm)
  · have hleft := congrArg (fun parts => parts.1.2) hparts
    have hright := congrArg (fun parts => parts.1.2) hparts'
    refine hleft.trans (Eq.trans ?_ hright.symm)
    simp only [pairedStep, parts]
    rw [halike.config]
    exact congrArg (fun applied => applied.getD t.1.config) (Handle.appliedConfig_of_masked hmasked)

/-- So do they through every list of calls. -/
theorem LookAlike.run (hε : Engine.Obedient ε) (hε' : Engine.Obedient ε') {s : Processor ε × ω}
    {t : Processor ε' × ω'} (halike : LookAlike s t) (ops : List Op) :
    (Processor.run ops s).1.map Reply.masked = (Processor.run ops t).1.map Reply.masked ∧
      LookAlike (Processor.run ops s).2 (Processor.run ops t).2 :=
  History.run_looksAlike (R := LookAlike) (fun op _ _ halike => halike.step hε hε' op) ops halike

omit [LawfulEngine ε ω] in
/-- A processor is made with the handle created for the same configuration. -/
theorem create_of_handle {config : Config} {world world' : ω} {h : Handle ε}
    (hcreate : Handle.create config world = (.ok h, world')) :
    create config world = (.ok ⟨h, config⟩, world') := by
  simp only [create, hcreate]

omit [LawfulEngine ε ω] [LawfulEngine ε' ω'] in
/-- On obedient engines, processors are made alike. -/
theorem madeAlike_create (hε : Engine.Obedient ε) (hε' : Engine.Obedient ε') (config : Config)
    (world : ω) (world' : ω') :
    MadeAlike (fun (s : Processor ε × ω) (t : Processor ε' × ω') => LookAlike s t)
      (create config world) (create config world') := by
  have hhandles := Handle.madeAlike_create hε hε' config world world'
  rcases hcreate : Handle.create (ε := ε) config world with ⟨result, made⟩
  rcases hcreate' : Handle.create (ε := ε') config world' with ⟨result', made'⟩
  rw [hcreate, hcreate'] at hhandles
  cases hhandles with
  | failed e =>
    simp only [create, hcreate, hcreate']
    exact .failed e made made'
  | made halike =>
    have hmade := create_of_handle hcreate
    have hmade' := create_of_handle hcreate'
    rw [hmade, hmade']
    exact .made ⟨History.Reachable.of_initial step ⟨config, world, hmade⟩,
      History.Reachable.of_initial step ⟨config, world', hmade'⟩, halike.face, rfl⟩

end Processor

namespace Bypass

/-- A frame of numbers comes back as it was, also when it is refused. -/
theorem channels_processFloat (direction : Direction) (channels : List (List Binary32)) (b : Bypass)
    (world : Unit) : (Engine.processFloat direction channels b world).2.1 = channels := by
  simp only [Engine.processFloat]
  cases checkChannels (b.format direction) channels <;> rfl

/-- A frame of 16-bit samples comes back as it was, also when it is refused. -/
theorem samples_processPcm (direction : Direction) (samples : List Int16) (b : Bypass)
    (world : Unit) : (Engine.processPcm direction samples b world).2.1 = samples := by
  simp only [Engine.processPcm]
  cases checkSamples (b.format direction) samples <;> rfl

/-- The bypass engine is obedient. -/
theorem obedient : Engine.Obedient Bypass where
  creates _ _ _ _ := ⟨_, _, rfl⟩
  obeys := by
    rintro ⟨h, world⟩ hreachable b hopen
    have hformat := format_of_reachable hreachable hopen
    refine ⟨rfl, fun _ => rfl, ?_, ?_⟩
    · intro direction frame hlength
      refine ⟨processFloat_of_fits ?_ (fun _ => length_of_mem_split hlength) world,
        channels_processFloat direction _ b world⟩
      rw [length_split, hformat]
    · intro direction frame hlength
      refine ⟨processPcm_of_fits ?_ world, samples_processPcm direction frame b world⟩
      rw [hformat]
      exact hlength

end Bypass

namespace Native

variable {σ ι : Type}

/-- A library that grants every instance, answers every call that has a status with success, and
leaves the samples of frames as they are. -/
structure Library.Obliging (library : Library σ ι) : Prop where
  grants (config : FlatConfig) (state : σ) :
    ∃ ref, (library.answer (.create config) state).1 = some ref
  succeeds (call : Call ι) (state : σ) (status : Status) :
    call.status? (library.answer call state).1 = some status → status = Status.ok
  keepsFloat (ref : ι) (direction : Direction) (source : List (List Binary32))
    (input output : WireFormat) (state : σ) :
    (library.answer (.processFloat ref direction source input output) state).1.2.val = source
  keepsPcm (ref : ι) (direction : Direction) (source : List Int16) (sourceLength : Int32)
    (input output : WireFormat) (destinationLength : Int32) (state : σ) :
    (library.answer (.processPcm ref direction source sourceLength input output destinationLength)
      state).1.2.val = source

/-- The native engine is obedient if the library is obliging. -/
theorem NativeEngine.obedient {library : Library σ ι} (hobliging : library.Obliging) :
    Engine.Obedient (NativeEngine library) where
  creates config capture render s := by
    obtain ⟨ref, hgranted⟩ := hobliging.grants (.ofConfig config) s.state
    let reset : Call ι := .reset ref (.ofStream capture) (.ofStream render)
    exact ⟨_, _, (create_of_some hgranted capture render).trans
      (if_pos (hobliging.succeeds reset _ _ rfl))⟩
  obeys := by
    rintro ⟨h, s⟩ hreachable e hopen
    have hformat := format_of_reachable hreachable hopen
    refine ⟨?_, ?_, ?_, ?_⟩
    · exact if_pos (hobliging.succeeds (.reset e.ref e.capture e.render) _ _ rfl)
    · intro config
      exact if_pos (hobliging.succeeds (.applyConfig e.ref (.ofConfig config)) _ _ rfl)
    · intro direction frame hlength channels answer
      have hcount : channels.length = (e.format direction).channelCount := by
        rw [hformat, WireFormat.channelCount_ofStream]
        exact length_split _ frame
      have hcall := processFloat_of_fits hcount (fun _ => length_of_mem_split hlength) s
      have hanswer : answer = _ := hcall
      rw [hanswer]
      exact ⟨if_pos (hobliging.succeeds (.processFloat e.ref direction channels _ _) _ _ rfl),
        hobliging.keepsFloat e.ref direction channels _ _ _⟩
    · intro direction frame hlength answer
      have hsamples : frame.length = (e.format direction).channelCount * samplesPerFrame := by
        rw [hformat, WireFormat.channelCount_ofStream]
        exact hlength
      have hanswer : answer = _ := processPcm_of_fits hsamples s
      rw [hanswer]
      exact ⟨if_pos (hobliging.succeeds (.processPcm e.ref direction frame _ _ _ _) _ _ rfl),
        hobliging.keepsPcm e.ref direction frame _ _ _ _ _⟩

/-- A library that grants every instance and always succeeds, leaves samples as they are, and
reports a delay of 7 milliseconds whatever it is told. -/
def Library.keeping : Library Unit Unit where
  answer
    | .create _, s => (some (), s)
    | .destroy _, s => ((), s)
    | .reset _ _ _, s => (Status.ok, s)
    | .applyConfig _ _, s => (Status.ok, s)
    | .processFloat _ _ source _ _, s => ((Status.ok, ⟨source, rfl⟩), s)
    | .processPcm _ _ source _ _ _ _, s => ((Status.ok, ⟨source, rfl⟩), s)
    | .statistics _, s => ((Status.ok, {}), s)
    | .setDelay _ _, s => (Status.ok, s)
    | .delay _, s => (7, s)
    | .setAnalogLevel _ _, s => (Status.ok, s)
    | .recommendedLevel _, s => (0, s)
    | .setOutputMuted _ _, s => ((), s)
    | .setKeyPressed _ _, s => ((), s)

/-- This library is obliging. -/
theorem Library.obliging_keeping : Library.keeping.Obliging where
  grants _ _ := ⟨(), rfl⟩
  succeeds call _ status hstatus := by cases call <;> cases hstatus <;> rfl
  keepsFloat _ _ _ _ _ _ := rfl
  keepsPcm _ _ _ _ _ _ _ _ := rfl

end Native

open Native in
/-- With an obliging library behind it, the native engine cannot be told from the bypass engine, but
by what they report of themselves. Handles for the same configuration are refused for the same
reason or made; and after every list of calls they have given the same answers, with the same
frames, have the same face, and will give the plain answer to every call. Processors also have the
same configuration. -/
theorem engines_interchangeable {σ ι : Type} (library : Library σ ι)
    (hobliging : library.Obliging) (config : Config) (s₀ : Session σ ι) :
    MadeAlike
        (fun (s : Handle (NativeEngine library) × Session σ ι) (t : Handle Bypass × Unit) =>
          ∀ ops, (Handle.run ops s).1.map Handle.Reply.masked =
              (Handle.run ops t).1.map Handle.Reply.masked ∧
            (Handle.run ops s).2.1.face = (Handle.run ops t).2.1.face ∧
            ∀ op, (Handle.step op (Handle.run ops s).2).1.masked =
              (Handle.run ops s).2.1.plainReply op)
        (Handle.create config s₀) (Handle.create config ()) ∧
      MadeAlike
        (fun (s : Processor (NativeEngine library) × Session σ ι) (t : Processor Bypass × Unit) =>
          ∀ ops, (Processor.run ops s).1.map Processor.Reply.masked =
              (Processor.run ops t).1.map Processor.Reply.masked ∧
            (Processor.run ops s).2.1.handle.face = (Processor.run ops t).2.1.handle.face ∧
            (Processor.run ops s).2.1.config = (Processor.run ops t).2.1.config)
        (Processor.create config s₀) (Processor.create config ()) := by
  have hnative := NativeEngine.obedient hobliging
  constructor
  · apply (Handle.madeAlike_create hnative Bypass.obedient config s₀ ()).imp
    intro s t halike ops
    obtain ⟨hreplies, hafter⟩ := halike.run hnative Bypass.obedient ops
    refine ⟨hreplies, hafter.face, fun op => ?_⟩
    exact Handle.masked_step hafter.left.hasScratch (hnative.obeys hafter.left) op
  · apply (Processor.madeAlike_create hnative Bypass.obedient config s₀ ()).imp
    intro s t halike ops
    obtain ⟨hreplies, hafter⟩ := halike.run hnative Bypass.obedient ops
    exact ⟨hreplies, hafter.face, hafter.config⟩

open Native in
/-- A stereo handle is told a delay that is too long, given frames that fit and frames that do not,
configured, and closed. Both engines let the same answers through, although they read different
delays, and a frame that fits comes back as it was. -/
theorem engines_interchangeable_of_keeping :
    let config : Config :=
      { echoCanceller := some { streamDelay := .fixed 40 }, captureChannels := 2 }
    let frame : List Binary32 := (List.range 960).map Binary.ofBits
    let ops : List Handle.Op :=
      [.processFloat .capture frame 2, .processFloat .render frame 2, .processPcm .render [1, 2] 1,
        .setStreamDelay (.fixed 700), .streamDelayMs, .applyConfig { captureChannels := 9 }, .reset,
        .processPcm .capture (List.replicate 960 5) 2, .destroy, .processFloat .capture frame 2]
    ∃ (h : Handle (NativeEngine Library.keeping)) (s : Session Unit Unit) (b : Handle Bypass),
      Handle.create config ⟨(), []⟩ = (.ok h, s) ∧ Handle.create config () = (.ok b, ()) ∧
      (h.streamDelayMs s).1 = some 7 ∧ (b.streamDelayMs ()).1 = some 40 ∧
      (Handle.run ops (h, s)).1.map Handle.Reply.masked =
        (Handle.run ops (b, ())).1.map Handle.Reply.masked ∧
      (Handle.run ops (h, s)).2.1.face = (Handle.run ops (b, ())).2.1.face ∧
      (Handle.step (.processFloat .capture frame 2) (h, s)).1.masked = .float (.ok ()) frame := by
  intro config frame ops
  obtain ⟨h, s, b, e, hcreate, hcreate', hnative, hbypass, hopen, hcount⟩ :
      ∃ (h : Handle (NativeEngine Library.keeping)) (s : Session Unit Unit) (b : Handle Bypass)
          (e : NativeEngine Library.keeping),
        Handle.create config ⟨(), []⟩ = (.ok h, s) ∧ Handle.create config () = (.ok b, ()) ∧
        (h.streamDelayMs s).1 = some 7 ∧ (b.streamDelayMs ()).1 = some 40 ∧ h.engine = some e ∧
        2 = (h.format .capture).channelCount := ⟨_, _, _, _, rfl, rfl, rfl, rfl, rfl, rfl⟩
  have halike :=
    (engines_interchangeable Library.keeping Library.obliging_keeping config ⟨(), []⟩).1
  rw [hcreate, hcreate'] at halike
  cases halike with
  | made hagree =>
    obtain ⟨hreplies, hface, -⟩ := hagree ops
    obtain ⟨-, -, hplain⟩ := hagree []
    have hlength : frame.length = (h.format .capture).frameSamples := by
      rw [StreamFormat.frameSamples, ← hcount, List.length_map, List.length_range]
      rfl
    have haccepted : h.refusal .capture frame.length 2 = none :=
      Handle.refusal_eq_none hopen hcount hlength
    refine ⟨h, s, b, hcreate, hcreate', hnative, hbypass, hreplies, hface, ?_⟩
    refine (hplain (.processFloat .capture frame 2)).trans ?_
    exact congrArg
      (fun refused => Handle.Reply.float (Handle.unlessRefused refused) frame) haccepted

end VoiceProcessing
