import VoiceProcessing.Boundary.Variable

/-!
# Replacing an engine by one that works alike

An engine can be replaced by one of another kind that answers every operation alike and does the
same in the world. Only their reports may differ, in what a snapshot does not show. Every call on a
handle, and on a handle variable, then commutes with the replacement: it does not matter whether the
engine is replaced before the call or after it. So a program that creates a handle, calls it, and
destroys it is given the same answers with either engine, and the world is left in the same state.
-/

namespace VoiceProcessing

variable {ε ε' ω : Type} {replaced : ε → ε'}

namespace Handle

/-- A handle with its engine replaced, if it is open. -/
def replace (replaced : ε → ε') (h : Handle ε) : Handle ε' where
  engine := h.engine.map replaced
  capture := h.capture
  render := h.render
  channels := h.channels
  samples := h.samples
  streamDelay := h.streamDelay
  statistics := h.statistics

@[simp] theorem replace_engine (h : Handle ε) :
    (h.replace replaced).engine = h.engine.map replaced := rfl

/-- The formats are those of the handle. -/
theorem format_replace (h : Handle ε) : (h.replace replaced).format = h.format := by
  funext direction
  cases direction <;> rfl

/-- A reading commutes with the replacement if both engines give the same. -/
theorem read_replace {reading : ε → ω → Int32 × ε × ω} {reading' : ε' → ω → Int32 × ε' × ω}
    (hreading : ∀ engine world, reading' (replaced engine) world =
      Prod.map id (Prod.map replaced id) (reading engine world)) (h : Handle ε) (world : ω) :
    (h.replace replaced).read reading' world =
      Prod.map id (Prod.map (replace replaced) id) (h.read reading world) := by
  cases hengine : h.engine with
  | none => simp only [read, replace_engine, hengine, Option.map_none]; rfl
  | some engine =>
    simp only [read, replace_engine, hengine, Option.map_some, hreading]
    rfl

end Handle

variable [Engine ε ω] [Engine ε' ω]

/-- Engines that are replaced in this way work alike in every world. -/
structure Engine.Replaces (replaced : ε → ε') : Prop where
  create (config : Config) (capture render : StreamFormat) (world : ω) :
    Engine.create config capture render world =
      Prod.map (Except.map replaced) id (Engine.create config capture render world)
  reset (engine : ε) (world : ω) :
    Engine.reset (replaced engine) world =
      Prod.map id (Prod.map replaced id) (Engine.reset engine world)
  applyConfig (config : Config) (engine : ε) (world : ω) :
    Engine.applyConfig config (replaced engine) world =
      Prod.map id (Prod.map replaced id) (Engine.applyConfig config engine world)
  processFloat (direction : Direction) (channels : List (List Binary32)) (engine : ε) (world : ω) :
    Engine.processFloat direction channels (replaced engine) world =
      Prod.map id (Prod.map id (Prod.map replaced id))
        (Engine.processFloat direction channels engine world)
  processPcm (direction : Direction) (samples : List Int16) (engine : ε) (world : ω) :
    Engine.processPcm direction samples (replaced engine) world =
      Prod.map id (Prod.map id (Prod.map replaced id))
        (Engine.processPcm direction samples engine world)
  statistics (engine : ε) (world : ω) :
    Prod.map EngineStats.flatten id (Engine.statistics (replaced engine) world) =
      Prod.map EngineStats.flatten (Prod.map replaced id) (Engine.statistics engine world)
  hint (hint : Hint) (engine : ε) (world : ω) :
    Engine.hint hint (replaced engine) world =
      Prod.map replaced id (Engine.hint hint engine world)
  delayMs (engine : ε) (world : ω) :
    Engine.delayMs (replaced engine) world =
      Prod.map id (Prod.map replaced id) (Engine.delayMs engine world)
  recommendedLevel (engine : ε) (world : ω) :
    Engine.recommendedLevel (replaced engine) world =
      Prod.map id (Prod.map replaced id) (Engine.recommendedLevel engine world)
  destroy (engine : ε) (world : ω) :
    Engine.destroy (replaced engine) world = Engine.destroy engine world

namespace Handle

/-- Handles are created with either engine. -/
theorem create_replaced (hreplaced : Engine.Replaces replaced) (config : Config) (world : ω) :
    create config world =
      Prod.map (Except.map (replace replaced)) id (create (ε := ε) config world) := by
  unfold create
  cases StreamFormat.ofChannels config.captureChannels with
  | error e => rfl
  | ok capture =>
    cases StreamFormat.ofChannels config.renderChannels with
    | error e => rfl
    | ok render =>
      simp only [hreplaced.create config capture render world]
      rcases Engine.create (ε := ε) config capture render world with ⟨e | engine, world⟩
      · rfl
      · cases config.streamDelay with
        | agnostic => rfl
        | fixed ms =>
          simp only [Prod.map, Except.map, id, hreplaced.hint]
          rfl

/-- A reset commutes with the replacement. -/
theorem reset_replace (hreplaced : Engine.Replaces replaced) (h : Handle ε) (world : ω) :
    (h.replace replaced).reset world =
      Prod.map id (Prod.map (replace replaced) id) (h.reset world) := by
  cases hengine : h.engine with
  | none => simp only [reset, replace_engine, hengine, Option.map_none]; rfl
  | some engine =>
    simp only [reset, replace_engine, hengine, Option.map_some, hreplaced.reset]
    rfl

/-- So does a configuration, whether it is accepted or not. -/
theorem applyConfig_replace (hreplaced : Engine.Replaces replaced) (config : Config)
    (h : Handle ε) (world : ω) :
    (h.replace replaced).applyConfig config world =
      Prod.map id (Prod.map (replace replaced) id) (h.applyConfig config world) := by
  cases hengine : h.engine with
  | none => simp only [applyConfig, replace_engine, hengine, Option.map_none]; rfl
  | some engine =>
    simp only [applyConfig, replace_engine, hengine, Option.map_some, hreplaced.applyConfig]
    rcases Engine.applyConfig config engine world with ⟨e | _, engine, world⟩
    · rfl
    · simp only [Prod.map, id, hreplaced.hint]
      rfl

/-- So does the end. -/
theorem destroy_replace (hreplaced : Engine.Replaces replaced) (h : Handle ε) (world : ω) :
    (h.replace replaced).destroy world = Prod.map (replace replaced) id (h.destroy world) := by
  cases hengine : h.engine with
  | none => simp only [destroy, replace_engine, hengine, Option.map_none]; rfl
  | some engine =>
    simp only [destroy, replace_engine, hengine, Option.map_some, hreplaced.destroy]
    rfl

/-- A snapshot shows the same of either engine. -/
theorem observe_replace (hreplaced : Engine.Replaces replaced) (direction : Direction)
    (h : Handle ε) (engine : ε) (world : ω) :
    (h.replace replaced).observe direction (replaced engine) world =
      Prod.map (replace replaced) id (h.observe direction engine world) := by
  cases direction with
  | render => rfl
  | capture =>
    have hreport := hreplaced.statistics engine world
    rcases hleft : Engine.statistics (replaced engine) world with ⟨stats', engine', world'⟩
    rcases hright : Engine.statistics engine world with ⟨stats, engine₁, world₁⟩
    rw [hleft, hright] at hreport
    obtain ⟨hflat, hengine, hworld⟩ : stats'.flatten = stats.flatten ∧ engine' = replaced engine₁ ∧
      world' = world₁ := by simpa only [Prod.map, id, Prod.mk.injEq] using hreport
    simp only [observe, hleft, hright, hflat, hengine, hworld]
    rfl

/-- A frame of numbers commutes with the replacement. -/
theorem processFloat_replace (hreplaced : Engine.Replaces replaced) (direction : Direction)
    (frame : List Binary32) (declared : Nat) (h : Handle ε) (world : ω) :
    (h.replace replaced).processFloat direction frame declared world =
      (h.processFloat direction frame declared world).map
        (Prod.map id (Prod.map id (Prod.map (replace replaced) id))) := by
  cases hengine : h.engine with
  | none => simp only [processFloat, replace_engine, hengine, Option.map_none]; rfl
  | some engine =>
    have hlend : (h.replace replaced).lend = h.lend := rfl
    simp only [processFloat, replace_engine, hengine, Option.map_some, format_replace, hlend]
    rcases checkFrame (h.format direction) frame.length declared with fault | e | _
    · rfl
    · rfl
    · rcases h.lend declared with fault | lent
      · rfl
      · rcases hdealt : deinterleave frame lent with fault | channels
        · simp only [bind, Except.bind, hdealt]
          rfl
        · simp only [bind, Except.bind, hdealt, hreplaced.processFloat]
          rcases Engine.processFloat direction channels engine world with
            ⟨e | _, out, engine, world⟩
          · rfl
          · exact congrArg (fun s => Except.ok (Except.ok (), interleave out frame, s))
              (observe_replace hreplaced direction
                { h with channels := out ++ h.channels.drop declared } engine world)

/-- So does a frame of 16-bit samples. -/
theorem processPcm_replace (hreplaced : Engine.Replaces replaced) (direction : Direction)
    (frame : List Int16) (declared : Nat) (h : Handle ε) (world : ω) :
    (h.replace replaced).processPcm direction frame declared world =
      (h.processPcm direction frame declared world).map
        (Prod.map id (Prod.map id (Prod.map (replace replaced) id))) := by
  cases hengine : h.engine with
  | none => simp only [processPcm, replace_engine, hengine, Option.map_none]; rfl
  | some engine =>
    simp only [processPcm, replace_engine, hengine, Option.map_some, format_replace]
    rcases checkFrame (h.format direction) frame.length declared with fault | e | _
    · rfl
    · rfl
    · simp only [bind, Except.bind, hreplaced.processPcm]
      rcases Engine.processPcm direction frame engine world with ⟨e | _, out, engine, world⟩
      · rfl
      · rcases hcopied : copyBack frame out with fault | copy
        · simp only [Prod.map, id, hcopied]
          rfl
        · simp only [Prod.map, id, hcopied]
          exact congrArg (fun s => Except.ok (Except.ok (), copy, s))
            (observe_replace hreplaced direction { h with samples := out } engine world)

/-- So does a hint. -/
theorem hint_replace (hreplaced : Engine.Replaces replaced) (hint : Hint) (h : Handle ε)
    (world : ω) :
    (h.replace replaced).hint hint world = Prod.map (replace replaced) id (h.hint hint world) := by
  cases hengine : h.engine with
  | none => simp only [Handle.hint, replace_engine, hengine, Option.map_none]; rfl
  | some engine =>
    simp only [Handle.hint, replace_engine, hengine, Option.map_some, hreplaced.hint]
    rfl

/-- So does a delay. -/
theorem setStreamDelay_replace (hreplaced : Engine.Replaces replaced) (delay : StreamDelay)
    (h : Handle ε) (world : ω) :
    (h.replace replaced).setStreamDelay delay world =
      Prod.map (replace replaced) id (h.setStreamDelay delay world) := by
  cases hengine : h.engine with
  | none => simp only [setStreamDelay, replace_engine, hengine, Option.map_none]; rfl
  | some engine =>
    simp only [setStreamDelay, replace_engine, hengine, Option.map_some, hreplaced.hint]
    rfl

end Handle

namespace Boundary.Variable

/-- A variable with its engine replaced, and its world. -/
def replace (replaced : ε → ε') (s : Variable ε × ω) : Variable ε' × ω :=
  (s.1.map (Handle.replace replaced), s.2)

/-- Every call on a variable commutes with the replacement. -/
theorem step_replace (hreplaced : Engine.Replaces replaced) (op : Op) (s : Variable ε × ω) :
    step op (replace replaced s) = Prod.map id (replace replaced) (step op s) := by
  obtain ⟨v, world⟩ := s
  cases v with
  | none => cases op <;> rfl
  | some h =>
    cases op with
    | destroy =>
      simp only [step, destroy, replace, Option.map_some, Handle.destroy_replace hreplaced]
      rfl
    | reset =>
      simp only [step, reset, replace, Option.map_some, Handle.reset_replace hreplaced]
      rfl
    | applyConfig record =>
      simp only [step, applyConfig, replace, Option.map_some, Handle.applyConfig_replace hreplaced]
      rfl
    | processFloat direction frame channels =>
      simp only [step, processFloat, replace, Option.map_some,
        Handle.processFloat_replace hreplaced]
      cases h.processFloat direction (frame.getD []) (declaredCount channels) world <;> rfl
    | processPcm direction frame channels =>
      simp only [step, processPcm, replace, Option.map_some, Handle.processPcm_replace hreplaced]
      cases h.processPcm direction (frame.getD []) (declaredCount channels) world <;> rfl
    | statistics => rfl
    | setStreamDelayMs ms =>
      simp only [step, setStreamDelayMs, update, replace, Option.map_some,
        Handle.setStreamDelay_replace hreplaced]
      rfl
    | setAnalogLevel level =>
      simp only [step, setAnalogLevel, update, Handle.setAnalogLevel, replace, Option.map_some,
        Handle.hint_replace hreplaced]
      rfl
    | setOutputMuted muted =>
      simp only [step, setOutputMuted, update, Handle.setOutputMuted, replace, Option.map_some,
        Handle.hint_replace hreplaced]
      rfl
    | setKeyPressed pressed =>
      simp only [step, setKeyPressed, update, Handle.setKeyPressed, replace, Option.map_some,
        Handle.hint_replace hreplaced]
      rfl
    | streamDelayMs =>
      simp only [step, streamDelayMs, read, Handle.streamDelayMs, replace, Option.map_some,
        Handle.read_replace hreplaced.delayMs]
      rfl
    | recommendedLevel =>
      simp only [step, recommendedLevel, read, Handle.recommendedLevel, replace, Option.map_some,
        Handle.read_replace hreplaced.recommendedLevel]
      rfl

/-- So does every list of calls. -/
theorem run_replace (hreplaced : Engine.Replaces replaced) (ops : List Op) (s : Variable ε × ω) :
    run ops (replace replaced s) = Prod.map id (replace replaced) (run ops s) := by
  have hagrees (op : Op) (t : Variable ε' × ω) (s : Variable ε × ω)
      (hsame : t = replace replaced s) :
      (step op t).1 = (step op s).1 ∧ (step op t).2 = replace replaced (step op s).2 := by
    rw [hsame, step_replace hreplaced]
    exact ⟨rfl, rfl⟩
  obtain ⟨hreplies, hafter⟩ := History.run_agrees hagrees ops (rfl : replace replaced s = _)
  exact Prod.ext hreplies hafter

/-- A variable is created with either engine. -/
theorem create_replaced (hreplaced : Engine.Replaces replaced) (record : ConfigRecord)
    (place : Option Status) (world : ω) :
    let made := create (ε := ε) record place world
    create (ε := ε') record place world =
      ((made.1.1.map (Handle.replace replaced), made.1.2), made.2) := by
  simp only [create, Handle.create_replaced hreplaced]
  rcases Handle.create (ε := ε) record.toConfig world with ⟨e | h, world⟩ <;> rfl

/-- A whole life has the same answers and the same effect on the world with either engine. -/
theorem lifetime_replaced (hreplaced : Engine.Replaces replaced) (record : ConfigRecord)
    (place : Option Status) (ops : List Op) (world : ω) :
    lifetime ε' record place ops world = lifetime ε record place ops world := by
  simp only [lifetime, create_replaced hreplaced]
  rcases create (ε := ε) record place world with ⟨⟨v, place⟩, world⟩
  have hlife := run_replace hreplaced ops (v, world)
  simp only [replace] at hlife
  rw [hlife]
  rcases run ops (v, world) with ⟨replies, v, world⟩
  cases v with
  | none => rfl
  | some h =>
    simp only [Prod.map, id, replace, Option.map_some, destroy, Handle.destroy_replace hreplaced]

end Boundary.Variable

end VoiceProcessing
