import VoiceProcessing.Proofs.Closed
import VoiceProcessing.Proofs.Indistinct

/-!
# Replacing the configuration

A configuration is applied in several places one after the other: the engine takes it, is told the
delay that comes with it, and then the handle and the processor remember it. If the engine refuses,
none of the later places is reached. If it accepts, all of them are overwritten, so that nothing is
left of an earlier configuration.

The channel counts in a configuration are read at creation only. Both engines ignore them later: the
native one does not pass them on, and the bypass engine keeps them with the rest of the record but
never looks at them.
-/

namespace VoiceProcessing

/-- Configurations that differ in nothing but their channel counts. -/
structure Config.SameSettings (a b : Config) : Prop where
  echoCanceller : a.echoCanceller = b.echoCanceller
  gainController : a.gainController = b.gainController
  noiseSuppression : a.noiseSuppression = b.noiseSuppression
  highPassFilter : a.highPassFilter = b.highPassFilter
  captureLevelAdjustment : a.captureLevelAdjustment = b.captureLevelAdjustment

namespace Config

/-- A configuration has its own settings. -/
theorem SameSettings.refl (config : Config) : config.SameSettings config :=
  ⟨rfl, rfl, rfl, rfl, rfl⟩

/-- A configuration has the same settings for other channel counts. -/
theorem sameSettings_withCounts (config : Config) (capture render : UInt16) :
    config.SameSettings { config with captureChannels := capture, renderChannels := render } :=
  ⟨rfl, rfl, rfl, rfl, rfl⟩

/-- The delay is among the settings. -/
theorem SameSettings.streamDelay {a b : Config} (hsame : a.SameSettings b) :
    a.streamDelay = b.streamDelay := by
  rw [Config.streamDelay, Config.streamDelay, hsame.echoCanceller]

end Config

/-- The native library is told settings and no channel counts. -/
theorem Native.FlatConfig.ofConfig_congr {a b : Config} (hsame : a.SameSettings b) :
    FlatConfig.ofConfig a = FlatConfig.ofConfig b := by
  obtain ⟨hecho, hgain, hnoise, hfilter, hadjustment⟩ := hsame
  simp only [FlatConfig.ofConfig, hecho, hgain, hnoise, hfilter, hadjustment]

variable {ε ω : Type} [Engine ε ω]

namespace Engine

/-- What is asked of an engine that accepts a configuration. -/
def reconfiguring (config : Config) : List Op :=
  [.applyConfig config, .hint (.delay config.streamDelay.hintMs)]

/-- Engines that keep nothing of an earlier configuration, and of which those with configurations of
the same settings are in a relation that no operation can tell apart. -/
structure Reconfigurable (R : ε → ε → Prop) : Prop where
  indistinct : Indistinct R
  blind {a b : Config} (hsame : a.SameSettings b) (engine : ε) (world : ω) :
    (Engine.applyConfig a engine world).1 = (Engine.applyConfig b engine world).1 ∧
      R (Engine.applyConfig a engine world).2.1 (Engine.applyConfig b engine world).2.1 ∧
      (Engine.applyConfig a engine world).2.2 = (Engine.applyConfig b engine world).2.2
  replaced (a b : Config) (s : ε × ω) :
    (History.after step (reconfiguring a ++ reconfiguring b) s).1 =
      (History.after step (reconfiguring b) s).1

end Engine

namespace Handle

/-- How a handle, with its world, takes a configuration. -/
structure TakesConfigs (R : ε → ε → Prop) (s : Handle ε × ω) : Prop where
  /-- A closed handle refuses it. -/
  closed (config : Config) :
    s.1.isClosed = true → s.1.applyConfig config s.2 = (.error .closed, s)
  /-- A configuration that is refused leaves everything as it was, and the engine is not told a
  delay. -/
  refused (config : Config) (e : Error) :
    (s.1.applyConfig config s.2).1 = .error e →
      let after := (s.1.applyConfig config s.2).2.1
      after.streamDelay = s.1.streamDelay ∧ after.statistics = s.1.statistics ∧
        after.format = s.1.format ∧ after.isClosed = s.1.isClosed ∧
        Engine.delaysPassed (engineCalls (.applyConfig config) s) = []
  /-- One that is accepted is followed by its delay, and changes nothing else. -/
  accepted (config : Config) :
    (s.1.applyConfig config s.2).1 = .ok () →
      let after := (s.1.applyConfig config s.2).2.1
      after.streamDelay = config.streamDelay ∧ after.statistics = s.1.statistics ∧
        after.format = s.1.format ∧ after.isClosed = s.1.isClosed ∧
        engineCalls (.applyConfig config) s = Engine.reconfiguring config
  /-- It leaves nothing of the one accepted before it. -/
  replaced (a b : Config) :
    let first := s.1.applyConfig a s.2
    first.1 = .ok () → (first.2.1.applyConfig b first.2.2).1 = .ok () →
      (s.1.applyConfig b s.2).1 = .ok () →
      (first.2.1.applyConfig b first.2.2).2.1 = (s.1.applyConfig b s.2).2.1
  /-- Its channel counts make no difference, now or after any list of calls. -/
  blind (a b : Config) :
    a.SameSettings b →
      (s.1.applyConfig a s.2).1 = (s.1.applyConfig b s.2).1 ∧
        ∀ ops, (run ops (s.1.applyConfig a s.2).2).1 = (run ops (s.1.applyConfig b s.2).2).1 ∧
          AlikeBy R (run ops (s.1.applyConfig a s.2).2).2 (run ops (s.1.applyConfig b s.2).2).2

/-- A closed handle refuses every configuration and stays as it is, and so does the world. -/
theorem applyConfig_of_closed {h : Handle ε} (hclosed : h.engine = none) (config : Config)
    (world : ω) : h.applyConfig config world = (.error .closed, h, world) := by
  simp only [applyConfig, hclosed]

/-- What it takes for an open handle to have a configuration accepted, and what comes of it. -/
theorem applyConfig_of_ok {h : Handle ε} {engine : ε} (hopen : h.engine = some engine)
    {config : Config} {world : ω} (hok : (h.applyConfig config world).1 = .ok ()) :
    (Engine.applyConfig config engine world).1 = .ok () ∧
      let s := History.after Engine.step (Engine.reconfiguring config) (engine, world)
      (h.applyConfig config world).2 =
        ({ h with engine := some s.1, streamDelay := config.streamDelay }, s.2) := by
  rcases hcall : Engine.applyConfig config engine world with ⟨result, engine', world'⟩
  simp only [applyConfig, hopen, hcall] at hok ⊢
  cases result with
  | error e => cases hok
  | ok _ =>
    simp only [Engine.reconfiguring, History.after_cons, History.after_nil, Engine.step, hcall]
    exact ⟨trivial, trivial⟩

/-- A closed handle has no configuration accepted. -/
theorem open_of_applyConfig_ok {h : Handle ε} {config : Config} {world : ω}
    (hok : (h.applyConfig config world).1 = .ok ()) : ∃ engine, h.engine = some engine := by
  cases hengine : h.engine with
  | none =>
    rw [applyConfig_of_closed hengine] at hok
    cases hok
  | some engine => exact ⟨engine, rfl⟩

/-- Channel counts make no difference to an open or a closed handle. -/
theorem alikeBy_applyConfig {R : ε → ε → Prop} (hR : Engine.Reconfigurable R) {a b : Config}
    (hsame : a.SameSettings b) (h : Handle ε) (world : ω) :
    (h.applyConfig a world).1 = (h.applyConfig b world).1 ∧
      AlikeBy R (h.applyConfig a world).2 (h.applyConfig b world).2 := by
  cases hengine : h.engine with
  | none =>
    simp only [applyConfig, hengine]
    exact ⟨trivial, ⟨by rw [hengine]; exact .none, rfl, rfl, rfl, rfl, rfl, rfl, rfl⟩⟩
  | some engine =>
    obtain ⟨hresult, hrelated, hworld⟩ := hR.blind hsame engine world
    rcases hcall : Engine.applyConfig a engine world with ⟨result, u⟩
    rcases hcall' : Engine.applyConfig b engine world with ⟨result', e', world'⟩
    simp only [hcall, hcall'] at hresult hrelated hworld
    subst hresult hworld
    simp only [applyConfig, hengine, hcall, hcall', ← hsame.streamDelay]
    cases result with
    | error _ => exact ⟨rfl, ⟨.some hrelated, rfl, rfl, rfl, rfl, rfl, rfl, rfl⟩⟩
    | ok _ =>
      obtain ⟨-, hafter, hworld⟩ :=
        hR.indistinct.step hrelated (.hint (.delay a.streamDelay.hintMs)) u.2
      exact ⟨rfl, ⟨.some hafter, rfl, rfl, rfl, rfl, rfl, rfl, hworld⟩⟩

/-- A configuration that is refused leaves at most another engine, which is told no delay. -/
theorem applyConfig_of_error [LawfulEngine ε ω] {h : Handle ε} (hscratch : h.HasScratch)
    {config : Config} {world : ω} {e : Error} (herror : (h.applyConfig config world).1 = .error e) :
    ∃ engine, engine.isNone = h.isClosed ∧
      (h.applyConfig config world).2.1 = { h with engine } ∧
      Engine.delaysPassed (engineCalls (.applyConfig config) (h, world)) = [] := by
  cases hengine : h.engine with
  | none =>
    rw [engineCalls_of_closed hengine, applyConfig_of_closed hengine]
    exact ⟨h.engine, rfl, rfl, rfl⟩
  | some engine =>
    rw [engineCalls_of_open hscratch hengine, isClosed_of_open hengine]
    rcases hcall : Engine.applyConfig config engine world with ⟨result, engine', world'⟩
    simp only [applyConfig, hengine, hcall, asked] at herror ⊢
    cases result with
    | error _ => exact ⟨some engine', rfl, rfl, rfl⟩
    | ok _ => cases herror

/-- On reconfigurable engines every reachable handle takes configurations so. -/
theorem takesConfigs [LawfulEngine ε ω] {R : ε → ε → Prop} (hR : Engine.Reconfigurable R)
    {s : Handle ε × ω} (hreachable : Reachable s) : TakesConfigs R s := by
  have hscratch := hreachable.hasScratch
  obtain ⟨h, world⟩ := s
  refine ⟨?_, ?_, ?_, ?_, ?_⟩
  · intro config hclosed
    exact applyConfig_of_closed (Option.isNone_iff_eq_none.mp hclosed) config world
  · intro config e herror after
    obtain ⟨engine, hclosed, hafter, hpassed⟩ := applyConfig_of_error hscratch herror
    have hsame : after = { h with engine } := hafter
    rw [hsame]
    refine ⟨rfl, rfl, ?_, hclosed, hpassed⟩
    funext direction
    cases direction <;> rfl
  · intro config hok after
    obtain ⟨engine, hopen⟩ := open_of_applyConfig_ok hok
    obtain ⟨hengine, happlied⟩ := applyConfig_of_ok hopen hok
    have hsame : after = { h with engine := some _, streamDelay := config.streamDelay } :=
      congrArg Prod.fst happlied
    rw [hsame]
    refine ⟨rfl, rfl, ?_, (isClosed_of_open hopen).symm, ?_⟩
    · funext direction
      cases direction <;> rfl
    · rw [engineCalls_of_open hscratch hopen]
      simp only [asked, hengine]
      rfl
  · intro a b first hfirst hsecond hdirect
    obtain ⟨engine, hopen⟩ := open_of_applyConfig_ok hfirst
    have hleft := (applyConfig_of_ok hopen hfirst).2
    have hdirectly := (applyConfig_of_ok hopen hdirect).2
    have hopen' := congrArg (fun s => s.1.engine) hleft
    have hright := (applyConfig_of_ok hopen' hsecond).2
    have hengines := hR.replaced a b (engine, world)
    rw [History.after_append] at hengines
    rw [hright, hdirectly]
    simp only [first, hleft, hengines]
  · intro a b hsame
    obtain ⟨hresult, halike⟩ := alikeBy_applyConfig hR hsame h world
    have hgeometry := geometry_step hscratch (.applyConfig a) world
    exact ⟨hresult, halike.run hR.indistinct (hscratch.of_geometry hgeometry)⟩

end Handle

namespace Processor

/-- How a processor, with its world, takes a configuration. -/
structure TakesConfigs (R : ε → ε → Prop) (s : Processor ε × ω) : Prop where
  /-- A closed processor refuses it. -/
  closed (config : Config) :
    s.1.isClosed = true → s.1.applyConfig config s.2 = (.error .closed, s)
  /-- A configuration that is refused leaves everything as it was, and the engine is not told a
  delay. -/
  refused (config : Config) (e : Error) :
    (s.1.applyConfig config s.2).1 = .error e →
      let after := (s.1.applyConfig config s.2).2.1
      after.config = s.1.config ∧ after.handle.streamDelay = s.1.handle.streamDelay ∧
        after.statistics = s.1.statistics ∧ after.handle.format = s.1.handle.format ∧
        after.isClosed = s.1.isClosed ∧
        Engine.delaysPassed (engineCalls (.applyConfig config) s) = []
  /-- One that is accepted is remembered and followed by its delay, and changes nothing else. -/
  accepted (config : Config) :
    (s.1.applyConfig config s.2).1 = .ok () →
      let after := (s.1.applyConfig config s.2).2.1
      after.config = config ∧ after.handle.streamDelay = config.streamDelay ∧
        after.statistics = s.1.statistics ∧ after.handle.format = s.1.handle.format ∧
        after.isClosed = s.1.isClosed ∧
        engineCalls (.applyConfig config) s = Engine.reconfiguring config
  /-- It leaves nothing of the one accepted before it. -/
  replaced (a b : Config) :
    let first := s.1.applyConfig a s.2
    first.1 = .ok () → (first.2.1.applyConfig b first.2.2).1 = .ok () →
      (s.1.applyConfig b s.2).1 = .ok () →
      (first.2.1.applyConfig b first.2.2).2.1 = (s.1.applyConfig b s.2).2.1
  /-- Its channel counts make no difference, now or after any list of calls, except that they are
  remembered with it. -/
  blind (a b : Config) :
    a.SameSettings b →
      (s.1.applyConfig a s.2).1 = (s.1.applyConfig b s.2).1 ∧
        ∀ ops, (run ops (s.1.applyConfig a s.2).2).1 = (run ops (s.1.applyConfig b s.2).2).1 ∧
          AlikeBy R Config.SameSettings (run ops (s.1.applyConfig a s.2).2).2
            (run ops (s.1.applyConfig b s.2).2).2

/-- The configuration that a processor remembers after the given result of applying one. -/
def remembered (p : Processor ε) (config : Config) : Except Error Unit → Config
  | .ok () => config
  | .error _ => p.config

/-- A processor applies a configuration to its handle and remembers it if that succeeds. -/
theorem applyConfig_eq (config : Config) (p : Processor ε) (world : ω) :
    let applied := p.handle.applyConfig config world
    p.applyConfig config world =
      (applied.1, ⟨applied.2.1, p.remembered config applied.1⟩, applied.2.2) := by
  rcases hcall : p.handle.applyConfig config world with ⟨result, h, world'⟩
  simp only [applyConfig, hcall]
  cases result <;> rfl

/-- The processor takes configurations as its handle does. -/
theorem TakesConfigs.of_handle [LawfulEngine ε ω] {R : ε → ε → Prop}
    (hR : Engine.Indistinct R) {s : Processor ε × ω} (hscratch : s.1.handle.HasScratch)
    (hhandle : Handle.TakesConfigs R (inner s)) : TakesConfigs R s := by
  obtain ⟨p, world⟩ := s
  refine ⟨?_, ?_, ?_, ?_, ?_⟩
  · intro config hclosed
    have hrefused : p.handle.applyConfig config world = (.error .closed, p.handle, world) :=
      hhandle.closed config hclosed
    rw [applyConfig_eq, hrefused]
    rfl
  · intro config e herror
    rw [applyConfig_eq] at herror ⊢
    have herror : (p.handle.applyConfig config world).1 = .error e := herror
    rw [engineCalls_eq]
    exact ⟨by rw [herror]; rfl, hhandle.refused config e herror⟩
  · intro config hok
    rw [applyConfig_eq] at hok ⊢
    have hok : (p.handle.applyConfig config world).1 = .ok () := hok
    rw [engineCalls_eq]
    exact ⟨by rw [hok]; rfl, hhandle.accepted config hok⟩
  · intro a b first hfirst hsecond hdirect
    simp only [first, applyConfig_eq] at hfirst hsecond hdirect ⊢
    rw [hsecond, hdirect]
    exact congrArg (fun h => (⟨h, b⟩ : Processor ε)) (hhandle.replaced a b hfirst hsecond hdirect)
  · intro a b hsame
    obtain ⟨hresult, hruns⟩ := hhandle.blind a b hsame
    have hresult : (p.handle.applyConfig a world).1 = (p.handle.applyConfig b world).1 := hresult
    have hgeometry := Handle.geometry_step hscratch (.applyConfig a) world
    simp only [applyConfig_eq, ← hresult]
    refine ⟨trivial, fun ops => ?_⟩
    have halike : AlikeBy R Config.SameSettings
        ((⟨(p.handle.applyConfig a world).2.1,
          p.remembered a (p.handle.applyConfig a world).1⟩ : Processor ε),
          (p.handle.applyConfig a world).2.2)
        (⟨(p.handle.applyConfig b world).2.1,
          p.remembered b (p.handle.applyConfig a world).1⟩,
          (p.handle.applyConfig b world).2.2) := by
      refine ⟨(hruns []).2, ?_⟩
      cases (p.handle.applyConfig a world).1 with
      | error _ => exact .refl p.config
      | ok _ => exact hsame
    exact halike.run hR Config.SameSettings.refl (hscratch.of_geometry hgeometry) ops

end Processor

namespace Native

variable {σ ι : Type} {library : Library σ ι}

/-- The native engine is reconfigurable: it keeps no configuration and passes on no channel
counts. -/
theorem NativeEngine.reconfigurable : Engine.Reconfigurable (ε := NativeEngine library) Eq where
  indistinct := Engine.indistinct_eq
  blind {a b} hsame e s := by
    have hflat := FlatConfig.ofConfig_congr hsame
    exact ⟨congrArg (fun flat => checkStatus (library.call (.applyConfig e.ref flat) s).1) hflat,
      rfl, congrArg (fun flat => (library.call (.applyConfig e.ref flat) s).2) hflat⟩
  replaced a b := by
    rintro ⟨e, s⟩
    rw [(after_uses _ e s).1, (after_uses _ e s).1]

/-- What applying a configuration to a handle on the native engine asks of the library, and how the
status of the library decides about it. -/
structure AsksLibrary (h : Handle (NativeEngine library)) (e : NativeEngine library)
    (s : Session σ ι) (config : Config) : Prop where
  result :
    let status := (library.call (.applyConfig e.ref (.ofConfig config)) s).1
    (h.applyConfig config s).1 = if status = Status.ok then .ok () else .error (.engine status)
  log :
    let status := (library.call (.applyConfig e.ref (.ofConfig config)) s).1
    (h.applyConfig config s).2.2.log = s.log ++ .applyConfig e.ref (.ofConfig config) ::
      if status = Status.ok then [.setDelay e.ref config.streamDelay.hintMs] else []

/-- A library that answers configurations with the given status and otherwise grants everything. -/
def Library.answering (status : Status) : Library Unit Unit where
  answer
    | .applyConfig _ _, s => (status, s)
    | call, s => (Library.reversing Status.ok).answer call s

/-- The library is told the delay only after it has accepted the configuration. -/
theorem asksLibrary {h : Handle (NativeEngine library)} {e : NativeEngine library}
    (hopen : h.engine = some e) (s : Session σ ι) (config : Config) : AsksLibrary h e s config := by
  rcases hcall : library.call (.applyConfig e.ref (.ofConfig config)) s with ⟨status, s'⟩
  have hlog : s'.log = s.log ++ [.applyConfig e.ref (.ofConfig config)] :=
    congrArg (fun called => called.2.log) hcall.symm
  by_cases hstatus : status = Status.ok
  · constructor
    · simp only [Handle.applyConfig, hopen, Engine.applyConfig, hcall, checkStatus, if_pos hstatus]
    · simp only [Handle.applyConfig, hopen, Engine.applyConfig, hcall, checkStatus, if_pos hstatus,
        Engine.hint, NativeEngine.hint, Library.log_call, hlog, List.append_assoc,
        List.singleton_append]
  · constructor
    · simp only [Handle.applyConfig, hopen, Engine.applyConfig, hcall, checkStatus, if_neg hstatus,
        Error.ofEngine]
    · simp only [Handle.applyConfig, hopen, Engine.applyConfig, hcall, checkStatus, if_neg hstatus,
        hlog]

end Native

namespace Bypass

/-- Bypass engines that differ in nothing but the channel counts of their configurations. -/
structure SameSettings (b b' : Bypass) : Prop where
  config : b.config.SameSettings b'.config
  besides : { b with config := b'.config } = b'

/-- The operations of the bypass engine do not look at the channel counts of its configuration. -/
theorem step_sameSettings {b b' : Bypass} (hsame : SameSettings b b') (op : Engine.Op)
    (world : Unit) :
    (Engine.step op (b, world)).1 = (Engine.step op (b', world)).1 ∧
      SameSettings (Engine.step op (b, world)).2.1 (Engine.step op (b', world)).2.1 := by
  obtain ⟨hconfig, hbesides⟩ := hsame
  rw [← hbesides] at hconfig ⊢
  generalize b'.config = config at hconfig ⊢
  -- Only the measurement of the echo reads the configuration, and it looks for the echo canceller.
  have hmeasure (power : Binary64) : { b with config }.measure power = b.measure power := by
    simp only [measure, ← hconfig.echoCanceller]
  have hobserve (direction : Direction) (power : Binary64) :
      SameSettings (b.observe direction power) ({ b with config }.observe direction power) := by
    cases direction with
    | render => exact ⟨hconfig, rfl⟩
    | capture => exact ⟨hconfig, by simp only [observe, hmeasure]⟩
  have hformat (direction : Direction) :
      { b with config }.format direction = b.format direction := by
    cases direction <;> rfl
  cases op with
  | processFloat direction channels =>
    simp only [Engine.step, Engine.processFloat, hformat]
    cases checkChannels (b.format direction) channels with
    | error e => exact ⟨rfl, hconfig, rfl⟩
    | ok _ => exact ⟨rfl, hobserve direction _⟩
  | processPcm direction samples =>
    simp only [Engine.step, Engine.processPcm, hformat]
    cases checkSamples (b.format direction) samples with
    | error e => exact ⟨rfl, hconfig, rfl⟩
    | ok _ => exact ⟨rfl, hobserve direction _⟩
  | applyConfig applied => exact ⟨rfl, .refl applied, rfl⟩
  | hint hint => cases hint <;> exact ⟨rfl, hconfig, rfl⟩
  | reset | statistics | delayMs | recommendedLevel => exact ⟨rfl, hconfig, rfl⟩

/-- The bypass engine is reconfigurable. -/
theorem reconfigurable : Engine.Reconfigurable SameSettings where
  indistinct :=
    { step := fun hsame op world =>
        ⟨(step_sameSettings hsame op world).1, (step_sameSettings hsame op world).2, rfl⟩
      destroy := fun _ _ => rfl }
  blind hsame _ _ := ⟨rfl, ⟨hsame, rfl⟩, rfl⟩
  replaced _ _ _ := rfl

/-- A bypass engine accepts every configuration, and its delay with it. -/
theorem applyConfig_of_open {h : Handle Bypass} {b : Bypass} (hopen : h.engine = some b)
    (config : Config) :
    h.applyConfig config () =
      (.ok (),
        { h with
          engine := some { b with
            config
            delayMs := clampLevel maxDelayMs config.streamDelay.hintMs }
          streamDelay := config.streamDelay },
        ()) := by
  simp only [Handle.applyConfig, hopen]
  rfl

end Bypass

/-- Handles and processors of both engines, in every state that callers can bring about, take
configurations as a whole or not at all, and without regard to their channel counts. On the native
engine the library decides, and is told the delay only when it has accepted; nothing else than the
record of a processor can tell configurations of the same settings apart. The bypass engine accepts
every configuration, and keeps it. -/
theorem reconfiguration_isWhole :
    (∀ {σ ι : Type} (library : Native.Library σ ι),
      (∀ s : Handle (Native.NativeEngine library) × Native.Session σ ι, Handle.Reachable s →
        Handle.TakesConfigs Eq s ∧
          ∀ e, s.1.engine = some e → ∀ config, Native.AsksLibrary s.1 e s.2 config) ∧
      ∀ s : Processor (Native.NativeEngine library) × Native.Session σ ι, Processor.Reachable s →
        Processor.TakesConfigs Eq s) ∧
    (∀ s : Handle Bypass × Unit, Handle.Reachable s →
      Handle.TakesConfigs Bypass.SameSettings s ∧
        ∀ b, s.1.engine = some b → ∀ config,
          (s.1.applyConfig config ()).1 = .ok () ∧
            (s.1.applyConfig config ()).2.1.engine = some { b with
              config
              delayMs := Bypass.clampLevel Bypass.maxDelayMs config.streamDelay.hintMs }) ∧
    ∀ s : Processor Bypass × Unit, Processor.Reachable s →
      Processor.TakesConfigs Bypass.SameSettings s := by
  refine ⟨fun library => ⟨fun s hreachable => ⟨?_, ?_⟩, fun s hreachable => ?_⟩,
    fun s hreachable => ⟨?_, ?_⟩, fun s hreachable => ?_⟩
  · exact Handle.takesConfigs Native.NativeEngine.reconfigurable hreachable
  · intro e hopen config
    exact Native.asksLibrary hopen s.2 config
  · exact .of_handle Native.NativeEngine.reconfigurable.indistinct hreachable.inner.hasScratch
      (Handle.takesConfigs Native.NativeEngine.reconfigurable hreachable.inner)
  · exact Handle.takesConfigs Bypass.reconfigurable hreachable
  · intro b hopen config
    rw [Bypass.applyConfig_of_open hopen]
    exact ⟨rfl, rfl⟩
  · exact .of_handle Bypass.reconfigurable.indistinct hreachable.inner.hasScratch
      (Handle.takesConfigs Bypass.reconfigurable hreachable.inner)

open Native in
/-- A library refuses a configuration without an echo canceller, so that the handle remembers the
delay of the one before. A processor on the bypass engine is given both configurations, or only the
second, or the second with other channel counts, one of them zero. -/
theorem reconfiguration_isWhole_of_refusing :
    let first : Config := { echoCanceller := some { streamDelay := .fixed 40 } }
    let second : Config := { noiseSuppression := some {} }
    (∃ (h : Handle (NativeEngine (Library.answering Status.badStreamParameter)))
        (s : Session Unit Unit),
      Handle.create first ⟨(), []⟩ = (.ok h, s) ∧
      (h.applyConfig second s).1 = .error (.engine Status.badStreamParameter) ∧
      (h.applyConfig second s).2.1.streamDelay = .fixed 40 ∧
      (h.applyConfig second s).2.2.log = s.log ++ [.applyConfig () (.ofConfig second)]) ∧
    ∃ p : Processor Bypass, Processor.create {} () = (.ok p, ()) ∧
      ((p.applyConfig first ()).2.1.applyConfig second ()).2.1 = (p.applyConfig second ()).2.1 ∧
      let other : Config := { second with captureChannels := 0, renderChannels := 9 }
      let ops : List Processor.Op :=
        [.processCapture (List.replicate 480 1), .setStreamDelay (.fixed 7), .streamDelayMs, .close,
          .applyConfig first]
      (Processor.run ops (p.applyConfig second ()).2).1 =
        (Processor.run ops (p.applyConfig other ()).2).1 := by
  intro first second
  constructor
  · obtain ⟨h, s, e, hcreate, hopen, hdelay⟩ :
        ∃ (h : Handle (NativeEngine (Library.answering Status.badStreamParameter)))
          (s : Session Unit Unit) (e : NativeEngine (Library.answering Status.badStreamParameter)),
        Handle.create first ⟨(), []⟩ = (.ok h, s) ∧ h.engine = some e ∧ h.streamDelay = .fixed 40 :=
      ⟨_, _, _, rfl, rfl, rfl⟩
    have hreachable : Handle.Reachable (h, s) :=
      History.Reachable.of_initial Handle.step ⟨first, _, hcreate⟩
    obtain ⟨htakes, hasks⟩ := (reconfiguration_isWhole.1 _).1 (h, s) hreachable
    obtain ⟨hresult, hlog⟩ := hasks e hopen second
    have hrefused : (h.applyConfig second s).1 = .error (.engine Status.badStreamParameter) :=
      hresult
    exact ⟨h, s, hcreate, hrefused, (htakes.refused second _ hrefused).1.trans hdelay, hlog⟩
  · obtain ⟨p, hmade, hfirst, hsecond, hdirect⟩ :
        ∃ p : Processor Bypass, Processor.create {} () = (.ok p, ()) ∧
          (p.applyConfig first ()).1 = .ok () ∧
          ((p.applyConfig first ()).2.1.applyConfig second ()).1 = .ok () ∧
          (p.applyConfig second ()).1 = .ok () := ⟨_, rfl, rfl, rfl, rfl⟩
    have hreachable : Processor.Reachable (p, ()) :=
      History.Reachable.of_initial Processor.step ⟨{}, _, hmade⟩
    have htakes := reconfiguration_isWhole.2.2 (p, ()) hreachable
    refine ⟨p, hmade, htakes.replaced first second hfirst hsecond hdirect, ?_⟩
    exact ((htakes.blind second _ (second.sameSettings_withCounts 0 9)).2 _).1

end VoiceProcessing
