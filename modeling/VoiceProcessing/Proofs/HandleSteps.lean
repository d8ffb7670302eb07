import VoiceProcessing.Handle.Operations
import VoiceProcessing.Proofs.Layout

/-!
# What a call on a handle does

A frame is refused for its geometry, or because the handle is closed, before the engine hears of it;
an accepted frame is split, passed to the engine and merged again. Both are stated as one equation
for each kind of frame. They need a scratch buffer for every channel, which creation provides and no
call takes away, so they hold of every reachable handle, and none of its calls is aborted.

Nothing is assumed of the engine but that it processes in place.
-/

namespace VoiceProcessing

/-- The number of channels that a configuration asks for in a direction. -/
def Config.channelCount (c : Config) : Direction → Nat
  | .capture => c.captureChannels.toNat
  | .render => c.renderChannels.toNat

namespace Handle

variable {ε ω : Type}

/-- There is a scratch buffer for every channel of either stream. -/
def HasScratch (h : Handle ε) : Prop :=
  ∀ direction, (h.format direction).channelCount ≤ h.channels.length

/-- Why a frame of the given length, declared to have the given number of channels, is refused
before it reaches the engine, if it is. -/
def refusal (h : Handle ε) (direction : Direction) (length declared : Nat) : Option Error :=
  if h.isClosed then some .closed
  else if declared ≠ (h.format direction).channelCount then
    some (.channelMismatch (h.format direction).channelCount declared)
  else if length ≠ (h.format direction).frameSamples then
    some (.lengthMismatch (h.format direction).frameSamples length)
  else none

/-- A handle with an engine is open. -/
theorem isClosed_of_open {h : Handle ε} {engine : ε} (hopen : h.engine = some engine) :
    h.isClosed = false := by
  rw [isClosed, hopen]
  rfl

/-- A closed handle refuses every frame as such, whatever else is wrong with it. -/
theorem refusal_of_closed {h : Handle ε} (hclosed : h.engine = none) (direction : Direction)
    (length declared : Nat) : h.refusal direction length declared = some .closed := by
  simp [refusal, isClosed, hclosed]

/-- A frame of the right geometry is accepted by an open handle. -/
theorem refusal_eq_none {h : Handle ε} {engine : ε} (hopen : h.engine = some engine)
    {direction : Direction} {length declared : Nat}
    (hdeclared : declared = (h.format direction).channelCount)
    (hlength : length = (h.format direction).frameSamples) :
    h.refusal direction length declared = none := by
  simp [refusal, isClosed, hopen, hdeclared, hlength]

/-- An accepted frame has the geometry of the stream, and the handle is open. -/
theorem open_of_refusal_eq_none {h : Handle ε} {direction : Direction} {length declared : Nat}
    (haccepted : h.refusal direction length declared = none) :
    (∃ engine, h.engine = some engine) ∧ declared = (h.format direction).channelCount ∧
      length = (h.format direction).frameSamples := by
  cases hengine : h.engine with
  | none => rw [refusal_of_closed hengine] at haccepted; cases haccepted
  | some engine =>
    simp only [refusal, isClosed, hengine, Option.isNone_some, Bool.false_eq_true, if_false]
      at haccepted
    split at haccepted
    · cases haccepted
    · split at haccepted
      · cases haccepted
      · exact ⟨⟨engine, rfl⟩, by omega, by omega⟩

/-- The check of a frame comes to a verdict. -/
theorem checkFrame_eq (format : StreamFormat) (length declared : Nat) :
    checkFrame format length declared =
      .ok (if declared ≠ format.channelCount then
          .error (.channelMismatch format.channelCount declared)
        else if length ≠ format.frameSamples then
          .error (.lengthMismatch format.frameSamples length)
        else .ok ()) := by
  simp only [checkFrame, format.frameLength_channelCount]
  by_cases hdeclared : declared ≠ format.channelCount
  · rw [if_pos hdeclared, if_pos hdeclared]
    rfl
  · rw [if_neg hdeclared, if_neg hdeclared]
    by_cases hlength : length ≠ format.frameSamples
    · rw [if_pos hlength]
      exact if_pos hlength
    · rw [if_neg hlength]
      exact if_neg hlength

/-- On an open handle the check finds the reason for a refusal. -/
theorem checkFrame_eq_refusal {h : Handle ε} {engine : ε} (hopen : h.engine = some engine)
    (direction : Direction) (length declared : Nat) :
    checkFrame (h.format direction) length declared =
      .ok (match h.refusal direction length declared with
        | some e => .error e
        | none => .ok ()) := by
  rw [checkFrame_eq, refusal, isClosed_of_open hopen, if_neg Bool.false_ne_true]
  split
  · rfl
  · split <;> rfl

/-- A frame of the right geometry finds a buffer for each of its channels, and is dealt out to them
evenly. -/
theorem HasScratch.dealt {h : Handle ε} (hscratch : h.HasScratch) {direction : Direction}
    {frame : List Binary32} (hlength : frame.length = (h.format direction).frameSamples) :
    let count := (h.format direction).channelCount
    ∃ buffers, h.lend count = .ok buffers ∧ buffers.length = count ∧ count ∣ frame.length ∧
      deinterleave frame buffers = .ok (split count frame) := by
  intro count
  have hbuffers : (h.channels.take count).length = count :=
    List.length_take_of_le (hscratch direction)
  have hdivides : count ∣ frame.length := hlength ▸ Nat.dvd_mul_right count samplesPerFrame
  refine ⟨_, if_pos (hscratch direction), hbuffers, hdivides, ?_⟩
  rw [deinterleave_eq_split, hbuffers]
  · rw [hbuffers]
    exact (h.format direction).channelCount_pos
  · rw [hbuffers]
    exact hdivides

variable [Engine ε ω]

/-- A refused frame of numbers comes back with the reason, and that is all. -/
theorem processFloat_of_refused {h : Handle ε} {direction : Direction} {frame : List Binary32}
    {declared : Nat} {e : Error} (hrefused : h.refusal direction frame.length declared = some e)
    (world : ω) :
    h.processFloat direction frame declared world = .ok (.error e, frame, h, world) := by
  cases hengine : h.engine with
  | none =>
    rw [refusal_of_closed hengine] at hrefused
    cases hrefused
    simp only [processFloat, hengine]
  | some engine =>
    simp only [processFloat, hengine, checkFrame_eq_refusal hengine, hrefused]
    rfl

/-- A refused frame of 16-bit samples comes back with the reason, and that is all. -/
theorem processPcm_of_refused {h : Handle ε} {direction : Direction} {frame : List Int16}
    {declared : Nat} {e : Error} (hrefused : h.refusal direction frame.length declared = some e)
    (world : ω) :
    h.processPcm direction frame declared world = .ok (.error e, frame, h, world) := by
  cases hengine : h.engine with
  | none =>
    rw [refusal_of_closed hengine] at hrefused
    cases hrefused
    simp only [processPcm, hengine]
  | some engine =>
    simp only [processPcm, hengine, checkFrame_eq_refusal hengine, hrefused]
    rfl

/-- What comes of a frame once the engine has given a result: if that is success, `out` takes the
place of the frame and there is a new snapshot. -/
def settle {F : Type} (direction : Direction) (frame out : F) (h : Handle ε)
    (result : Except EngineError Unit) (s : ε × ω) : Except Error Unit × F × Handle ε × ω :=
  match result with
  | .error e => (.error (.ofEngine e), frame, { h with engine := some s.1 }, s.2)
  | .ok () => (.ok (), out, h.observe direction s.1 s.2)

/-- What an accepted frame of numbers leads to. -/
def passFloat (direction : Direction) (frame : List Binary32) (h : Handle ε) (engine : ε)
    (world : ω) : Except Error Unit × List Binary32 × Handle ε × ω :=
  let count := (h.format direction).channelCount
  let answer := Engine.processFloat direction (split count frame) engine world
  settle direction frame (interleave answer.2.1 frame)
    { h with channels := answer.2.1 ++ h.channels.drop count } answer.1 answer.2.2

/-- What an accepted frame of 16-bit samples leads to. -/
def passPcm (direction : Direction) (frame : List Int16) (h : Handle ε) (engine : ε) (world : ω) :
    Except Error Unit × List Int16 × Handle ε × ω :=
  let answer := Engine.processPcm direction frame engine world
  settle direction frame answer.2.1 { h with samples := answer.2.1 } answer.1 answer.2.2

/-- The engine decides about an accepted frame. -/
theorem result_settle {F : Type} (direction : Direction) (frame out : F) (h : Handle ε)
    (result : Except EngineError Unit) (s : ε × ω) :
    (h.settle direction frame out result s).1 = result.mapError Error.ofEngine := by
  cases result <;> rfl

/-- An accepted frame of numbers reaches the engine as its channels. -/
theorem processFloat_of_accepted {h : Handle ε} (hscratch : h.HasScratch) {engine : ε}
    (hopen : h.engine = some engine) {direction : Direction} {frame : List Binary32}
    {declared : Nat} (haccepted : h.refusal direction frame.length declared = none) (world : ω) :
    h.processFloat direction frame declared world =
      .ok (h.passFloat direction frame engine world) := by
  obtain ⟨-, rfl, hlength⟩ := open_of_refusal_eq_none haccepted
  obtain ⟨buffers, hlent, -, -, hdealt⟩ := hscratch.dealt hlength
  rcases hcall : Engine.processFloat direction (split (h.format direction).channelCount frame)
    engine world with ⟨result, channels, engine', world'⟩
  simp only [processFloat, hopen, checkFrame_eq_refusal hopen, haccepted, hlent, passFloat, settle,
    bind, Except.bind, hdealt, pure, Except.pure, hcall]
  cases result <;> rfl

/-- An accepted frame of 16-bit samples reaches the engine as it is. -/
theorem processPcm_of_accepted [LawfulEngine ε ω] {h : Handle ε} {engine : ε}
    (hopen : h.engine = some engine) {direction : Direction} {frame : List Int16}
    {declared : Nat} (haccepted : h.refusal direction frame.length declared = none) (world : ω) :
    h.processPcm direction frame declared world =
      .ok (h.passPcm direction frame engine world) := by
  have hlength := LawfulEngine.length_processPcm direction frame engine world
  rcases hcall : Engine.processPcm direction frame engine world with
    ⟨result, samples, engine', world'⟩
  rw [hcall] at hlength
  simp only [processPcm, hopen, checkFrame_eq_refusal hopen, haccepted, passPcm, settle, bind,
    Except.bind, pure, Except.pure, copyBack, if_pos hlength, hcall]
  cases result <;> rfl

/-- What a call on a closed handle answers. -/
def Op.closedReply : Op → Reply
  | .processFloat _ frame _ => .float (.error .closed) frame
  | .processPcm _ frame _ => .pcm (.error .closed) frame
  | .reset => .result (.error .closed)
  | .applyConfig _ => .result (.error .closed)
  | .streamDelayMs => .reading none
  | .recommendedLevel => .reading none
  | .destroy | .setStreamDelay _ | .setAnalogLevel _ | .setOutputMuted _ | .setKeyPressed _ => .done

/-- A closed handle answers every call at once and stays as it is, and so does the world. -/
theorem step_closed {h : Handle ε} (hclosed : h.engine = none) (op : Op) (world : ω) :
    step op (h, world) = (op.closedReply, h, world) := by
  cases op with
  | processFloat direction frame declared =>
    simp only [step, processFloat_of_refused (refusal_of_closed hclosed _ _ _), Op.closedReply]
  | processPcm direction frame declared =>
    simp only [step, processPcm_of_refused (refusal_of_closed hclosed _ _ _), Op.closedReply]
  | reset => simp only [step, reset, hclosed, Op.closedReply]
  | applyConfig config => simp only [step, applyConfig, hclosed, Op.closedReply]
  | destroy => simp only [step, destroy, hclosed, Op.closedReply]
  | setStreamDelay delay => simp only [step, setStreamDelay, hclosed, Op.closedReply]
  | setAnalogLevel level => simp only [step, setAnalogLevel, hint, hclosed, Op.closedReply]
  | setOutputMuted muted => simp only [step, setOutputMuted, hint, hclosed, Op.closedReply]
  | setKeyPressed pressed => simp only [step, setKeyPressed, hint, hclosed, Op.closedReply]
  | streamDelayMs => simp only [step, streamDelayMs, read, hclosed, Op.closedReply]
  | recommendedLevel => simp only [step, recommendedLevel, read, hclosed, Op.closedReply]

/-- Whatever is done to a closed handle leaves it and the world as they were. -/
theorem after_closed {s : Handle ε × ω} (hclosed : s.1.engine = none) (ops : List Op) :
    History.after step ops s = s :=
  congrArg Prod.snd (History.run_of_unchanged step (fun op => step_closed hclosed op s.2) ops)

/-- Giving up the engine closes the handle. -/
theorem engine_destroy (h : Handle ε) (world : ω) : (h.destroy world).1.engine = none := by
  cases hengine : h.engine <;> simp only [destroy, hengine]

/-- The call on the engine that a call on a handle merely passes on. -/
def Op.passedOn : Op → Option Engine.Op
  | .reset => some .reset
  | .setAnalogLevel level => some (.hint (.analogLevel level))
  | .setOutputMuted muted => some (.hint (.outputMuted muted))
  | .setKeyPressed pressed => some (.hint (.keyPressed pressed))
  | .streamDelayMs => some .delayMs
  | .recommendedLevel => some .recommendedLevel
  | .processFloat _ _ _ | .processPcm _ _ _ | .applyConfig _ | .destroy | .setStreamDelay _ => none

/-- A call that is merely passed on changes nothing else. -/
theorem step_passedOn {h : Handle ε} {engine : ε} (hopen : h.engine = some engine) {op : Op}
    {call : Engine.Op} (hpassed : op.passedOn = some call) (world : ω) :
    (step op (h, world)).2 =
      ({ h with engine := some (Engine.step call (engine, world)).2.1 },
        (Engine.step call (engine, world)).2.2) := by
  cases op with
  | reset =>
    cases hpassed
    simp only [step, reset, hopen, Engine.step]
  | setAnalogLevel level =>
    cases hpassed
    simp only [step, setAnalogLevel, hint, hopen, Engine.step]
  | setOutputMuted muted =>
    cases hpassed
    simp only [step, setOutputMuted, hint, hopen, Engine.step]
  | setKeyPressed pressed =>
    cases hpassed
    simp only [step, setKeyPressed, hint, hopen, Engine.step]
  | streamDelayMs =>
    cases hpassed
    simp only [step, streamDelayMs, read, hopen, Engine.step]
  | recommendedLevel =>
    cases hpassed
    simp only [step, recommendedLevel, read, hopen, Engine.step]
  | _ => cases hpassed

/-- The answer to a refused frame of numbers. -/
theorem step_processFloat_of_refused {h : Handle ε} {direction : Direction}
    {frame : List Binary32} {declared : Nat} {e : Error}
    (hrefused : h.refusal direction frame.length declared = some e) (world : ω) :
    step (.processFloat direction frame declared) (h, world) =
      (.float (.error e) frame, h, world) := by
  simp only [step, processFloat_of_refused hrefused]

/-- The answer to a refused frame of 16-bit samples. -/
theorem step_processPcm_of_refused {h : Handle ε} {direction : Direction} {frame : List Int16}
    {declared : Nat} {e : Error} (hrefused : h.refusal direction frame.length declared = some e)
    (world : ω) :
    step (.processPcm direction frame declared) (h, world) =
      (.pcm (.error e) frame, h, world) := by
  simp only [step, processPcm_of_refused hrefused]

/-- The answer to an accepted frame of numbers. -/
theorem step_processFloat_of_accepted {h : Handle ε} (hscratch : h.HasScratch) {engine : ε}
    (hopen : h.engine = some engine) {direction : Direction} {frame : List Binary32}
    {declared : Nat} (haccepted : h.refusal direction frame.length declared = none) (world : ω) :
    step (.processFloat direction frame declared) (h, world) =
      (.float (h.passFloat direction frame engine world).1
          (h.passFloat direction frame engine world).2.1,
        (h.passFloat direction frame engine world).2.2) := by
  simp only [step, processFloat_of_accepted hscratch hopen haccepted]

/-- The answer to an accepted frame of 16-bit samples. -/
theorem step_processPcm_of_accepted [LawfulEngine ε ω] {h : Handle ε} {engine : ε}
    (hopen : h.engine = some engine) {direction : Direction} {frame : List Int16}
    {declared : Nat} (haccepted : h.refusal direction frame.length declared = none) (world : ω) :
    step (.processPcm direction frame declared) (h, world) =
      (.pcm (h.passPcm direction frame engine world).1 (h.passPcm direction frame engine world).2.1,
        (h.passPcm direction frame engine world).2.2) := by
  simp only [step, processPcm_of_accepted hopen haccepted]

/-- The formats of a handle and the number of its scratch buffers, neither of which ever changes. -/
def geometry (h : Handle ε) : StreamFormat × StreamFormat × Nat :=
  (h.capture, h.render, h.channels.length)

/-- The formats are part of the geometry. -/
theorem format_of_geometry {h h' : Handle ε} (hsame : h'.geometry = h.geometry) :
    h'.format = h.format := by
  simp only [geometry, Prod.mk.injEq] at hsame
  funext direction
  cases direction
  · exact hsame.1
  · exact hsame.2.1

/-- So is whether there is enough scratch. -/
theorem HasScratch.of_geometry {h h' : Handle ε} (hsame : h'.geometry = h.geometry)
    (hscratch : h.HasScratch) : h'.HasScratch := by
  intro direction
  have hlength : h'.channels.length = h.channels.length := congrArg (·.2.2) hsame
  rw [format_of_geometry hsame, hlength]
  exact hscratch direction

/-- A new snapshot leaves the geometry alone. -/
@[simp] theorem geometry_observe (direction : Direction) (h : Handle ε) (engine : ε) (world : ω) :
    (h.observe direction engine world).1.geometry = h.geometry := by
  cases direction <;> rfl

/-- The geometry does not depend on what comes of a frame. -/
theorem geometry_settle {F : Type} (direction : Direction) (frame out : F) (h : Handle ε)
    (result : Except EngineError Unit) (s : ε × ω) :
    (h.settle direction frame out result s).2.2.1.geometry = h.geometry := by
  cases result with
  | error e => rfl
  | ok _ => exact geometry_observe direction h s.1 s.2

/-- An accepted frame of numbers leaves as many scratch buffers as there were. -/
theorem geometry_passFloat [LawfulEngine ε ω] {h : Handle ε} (hscratch : h.HasScratch)
    (direction : Direction) (frame : List Binary32) (engine : ε) (world : ω) :
    (h.passFloat direction frame engine world).2.2.1.geometry = h.geometry := by
  have hlengths := congrArg List.length (LawfulEngine.lengths_processFloat direction
    (split (h.format direction).channelCount frame) engine world)
  have hcount := hscratch direction
  rw [List.length_map, List.length_map, length_split] at hlengths
  rw [passFloat, geometry_settle, geometry, geometry, List.length_append, List.length_drop,
    hlengths, Nat.add_sub_cancel' hcount]

/-- An accepted frame of 16-bit samples leaves the geometry alone. -/
theorem geometry_passPcm (direction : Direction) (frame : List Int16) (h : Handle ε) (engine : ε)
    (world : ω) : (h.passPcm direction frame engine world).2.2.1.geometry = h.geometry := by
  rw [passPcm, geometry_settle]
  rfl

/-- No call changes the geometry. -/
theorem geometry_step [LawfulEngine ε ω] {h : Handle ε} (hscratch : h.HasScratch) (op : Op)
    (world : ω) : (step op (h, world)).2.1.geometry = h.geometry := by
  cases hengine : h.engine with
  | none => rw [step_closed hengine]
  | some engine =>
    cases op with
    | processFloat direction frame declared =>
      cases hrefusal : h.refusal direction frame.length declared with
      | some e => rw [step_processFloat_of_refused hrefusal]
      | none =>
        rw [step_processFloat_of_accepted hscratch hengine hrefusal]
        exact geometry_passFloat hscratch direction frame engine world
    | processPcm direction frame declared =>
      cases hrefusal : h.refusal direction frame.length declared with
      | some e => rw [step_processPcm_of_refused hrefusal]
      | none =>
        rw [step_processPcm_of_accepted hengine hrefusal]
        exact geometry_passPcm direction frame h engine world
    | applyConfig config =>
      simp only [step, applyConfig, hengine]
      split <;> rfl
    | destroy => simp only [step, destroy, hengine]; rfl
    | setStreamDelay delay => simp only [step, setStreamDelay, hengine]; rfl
    | reset | setAnalogLevel _ | setOutputMuted _ | setKeyPressed _ | streamDelayMs
    | recommendedLevel =>
      rw [step_passedOn hengine rfl]
      rfl

/-- The engine calls with which creation forwards the delay of a configuration. -/
def forwarded : StreamDelay → List Engine.Op
  | .agnostic => []
  | .fixed ms => [.hint (.delay ms)]

/-- The handle on a new engine. -/
def opened (config : Config) (capture render : StreamFormat) (engine : ε) : Handle ε where
  engine := some engine
  capture := capture
  render := render
  channels := List.replicate (max capture.channelCount render.channelCount)
    (List.replicate samplesPerFrame 0)
  samples := []
  streamDelay := config.streamDelay
  statistics := {}

/-- A new handle has a scratch buffer for every channel of the wider stream. -/
theorem hasScratch_opened (config : Config) (capture render : StreamFormat) (engine : ε) :
    (opened config capture render engine).HasScratch := by
  intro direction
  cases direction <;> simp only [opened, format, List.length_replicate] <;> omega

/-- A zero channel count is refused before anything else happens. -/
theorem create_of_zero {config : Config}
    (hzero : config.captureChannels = 0 ∨ config.renderChannels = 0) (world : ω) :
    create (ε := ε) config world =
      (.error (.invalidChannels config.captureChannels config.renderChannels), world) := by
  simp only [create, StreamFormat.ofChannels]
  by_cases hcapture : config.captureChannels = 0
  · simp only [dif_pos hcapture]
  · simp only [dif_neg hcapture, dif_pos (hzero.resolve_left hcapture)]

/-- Otherwise the engine decides, and a delay known in advance is forwarded to it. -/
theorem create_of_ne_zero {config : Config} (hcapture : config.captureChannels ≠ 0)
    (hrender : config.renderChannels ≠ 0) (world : ω) :
    create (ε := ε) config world =
      match Engine.create config ⟨_, hcapture⟩ ⟨_, hrender⟩ world with
      | (.error e, world) => (.error (.create e.code), world)
      | (.ok engine, world) =>
        let s := History.after Engine.step (forwarded config.streamDelay) (engine, world)
        (.ok (opened config ⟨_, hcapture⟩ ⟨_, hrender⟩ s.1), s.2) := by
  rcases hmade : Engine.create (ε := ε) config ⟨_, hcapture⟩ ⟨_, hrender⟩ world with
    ⟨result, world'⟩
  simp only [create, StreamFormat.ofChannels, dif_neg hcapture, dif_neg hrender, hmade]
  cases result with
  | error e => rfl
  | ok engine => cases hdelay : config.streamDelay <;> simp only [opened, forwarded, hdelay] <;> rfl

/-- A handle that comes out of its creation is the one on the engine made for its formats. -/
theorem exists_of_create {config : Config} {world world' : ω} {h : Handle ε}
    (hcreate : create config world = (.ok h, world')) :
    ∃ (hcapture : config.captureChannels ≠ 0) (hrender : config.renderChannels ≠ 0) (made : ε × ω),
      Engine.create config ⟨_, hcapture⟩ ⟨_, hrender⟩ world = (.ok made.1, made.2) ∧
      h = opened config ⟨_, hcapture⟩ ⟨_, hrender⟩
        (History.after Engine.step (forwarded config.streamDelay) made).1 ∧
      world' = (History.after Engine.step (forwarded config.streamDelay) made).2 := by
  by_cases hzero : config.captureChannels = 0 ∨ config.renderChannels = 0
  · rw [create_of_zero hzero] at hcreate
    cases hcreate
  · rw [not_or] at hzero
    rw [create_of_ne_zero hzero.1 hzero.2] at hcreate
    rcases hmade : Engine.create (ε := ε) config ⟨_, hzero.1⟩ ⟨_, hzero.2⟩ world with
      ⟨result, world₁⟩
    rw [hmade] at hcreate
    cases result with
    | error e => cases hcreate
    | ok engine =>
      cases hcreate
      exact ⟨hzero.1, hzero.2, (engine, world₁), hmade, rfl, rfl⟩

/-- The world after creating a handle and performing a list of calls on it, as long as it is not
dropped. -/
def worldDuring (ε : Type) {ω : Type} [Engine ε ω] (config : Config) (ops : List Op) (world : ω) :
    ω :=
  match create (ε := ε) config world with
  | (.error _, world) => world
  | (.ok h, world) => (History.after step ops (h, world)).2

/-- Dropping a handle does to the world what closing it does. -/
theorem lifetime_world (config : Config) (ops : List Op) (world : ω) :
    (lifetime ε config ops world).2 = worldDuring ε config (ops ++ [.destroy]) world := by
  rcases hcreate : create (ε := ε) config world with ⟨result, world'⟩
  simp only [lifetime, worldDuring, hcreate]
  cases result with
  | error e => rfl
  | ok h =>
    have hend := History.after_append step ops [.destroy] (h, world')
    exact congrArg Prod.snd hend.symm

/-- Once a handle is closed, the world is and remains what it would be had the handle been dropped
instead. -/
theorem worldDuring_ended (config : Config) (before later : List Op) (world : ω) :
    worldDuring ε config (before ++ .destroy :: later) world =
      (lifetime ε config before world).2 := by
  rcases hcreate : create (ε := ε) config world with ⟨result, world'⟩
  simp only [lifetime, worldDuring, hcreate]
  cases result with
  | error e => rfl
  | ok h =>
    have hclosed := engine_destroy (History.after step before (h, world')).1
      (History.after step before (h, world')).2
    have hend : History.after step (before ++ .destroy :: later) (h, world') =
        (History.after step before (h, world')).1.destroy
          (History.after step before (h, world')).2 :=
      (History.after_append step before (.destroy :: later) (h, world')).trans
        (after_closed hclosed later)
    exact congrArg Prod.snd hend

/-- The streams of a new handle have the channel counts of its configuration. -/
theorem channelCount_format_of_create {config : Config} {world world' : ω} {h : Handle ε}
    (hcreate : create config world = (.ok h, world')) (direction : Direction) :
    (h.format direction).channelCount = config.channelCount direction := by
  obtain ⟨_, _, _, -, rfl, -⟩ := exists_of_create hcreate
  cases direction <;> rfl

/-- A handle just created, with the world that its creation left. -/
def Created (s : Handle ε × ω) : Prop :=
  ∃ config world, create config world = (.ok s.1, s.2)

/-- The handles, with their worlds, that callers can bring about. -/
def Reachable (s : Handle ε × ω) : Prop :=
  History.Reachable step Created s

/-- Every reachable handle has enough scratch. -/
theorem Reachable.hasScratch [LawfulEngine ε ω] {s : Handle ε × ω} (hreachable : Reachable s) :
    s.1.HasScratch := by
  apply History.Reachable.invariant (P := fun s : Handle ε × ω => s.1.HasScratch) ?_ ?_ hreachable
  · intro s hcreated
    obtain ⟨config, world, hcreate⟩ := hcreated
    obtain ⟨_, _, _, -, hnew, -⟩ := exists_of_create hcreate
    rw [hnew]
    exact hasScratch_opened _ _ _ _
  · intro op s hscratch
    exact hscratch.of_geometry (geometry_step hscratch op s.2)

/-- No history changes the geometry. -/
theorem geometry_after [LawfulEngine ε ω] {s : Handle ε × ω} (hscratch : s.1.HasScratch)
    (ops : List Op) : (History.after step ops s).1.geometry = s.1.geometry := by
  induction ops generalizing s with
  | nil => rfl
  | cons op ops ih =>
    have hstep := geometry_step hscratch op s.2
    rw [History.after_cons, ih (hscratch.of_geometry hstep)]
    exact hstep

end Handle

end VoiceProcessing
