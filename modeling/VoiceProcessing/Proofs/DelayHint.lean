import Mathlib.Data.List.Induction
import VoiceProcessing.Proofs.EngineGeometry
import VoiceProcessing.Proofs.LatestEvent

/-!
# The delay hint of a handle and of its engine

A handle remembers the delay hint as it was given and passes it to the engine in milliseconds. Three
calls give a hint: creation, setting it, and replacing the configuration, if the engine accepts it.
The first passes nothing if there is no delay to speak of; each of the others passes one value. So
the engine was last told what the handle remembers, or it was never told and there is nothing to
tell.
-/

namespace VoiceProcessing

variable {ε ω : Type} [Engine ε ω]

namespace Engine

/-- The delay that a call passes to an engine, in milliseconds, if it does. -/
def Op.delayPassed : Op → Option Int32
  | .hint (.delay ms) => some ms
  | _ => none

/-- The delays that a list of calls passes to an engine, the earliest first. -/
def delaysPassed (calls : List Op) : List Int32 :=
  calls.filterMap Op.delayPassed

end Engine

namespace Handle

/-- The configuration that a call makes the engine accept, if it does. -/
def appliedConfig (op : Op) (s : Handle ε × ω) : Option Config :=
  match op, (step op s).1 with
  | .applyConfig config, .result (.ok ()) => some config
  | _, _ => none

/-- The delay that a call gives to an open handle, if it does. -/
def delayGiven (op : Op) (s : Handle ε × ω) : Option StreamDelay :=
  match op with
  | .setStreamDelay delay => some delay
  | _ => (appliedConfig op s).map Config.streamDelay

/-- What comes of a frame does not concern the delay. -/
theorem streamDelay_settle {F : Type} (direction : Direction) (frame out : F) (h : Handle ε)
    (result : Except EngineError Unit) (s : ε × ω) :
    (h.settle direction frame out result s).2.2.1.streamDelay = h.streamDelay := by
  cases result <;> cases direction <;> rfl

/-- After a frame the engine is at most asked for statistics. -/
theorem delaysPassed_followUp (direction : Direction) (result : Except EngineError Unit) :
    Engine.delaysPassed (followUp direction result) = [] := by
  cases direction <;> cases result <;> rfl

/-- What a call on an open handle does about the delay: it gives at most one, which the handle
remembers and the engine is told. -/
theorem delay_step [LawfulEngine ε ω] {h : Handle ε} (hscratch : h.HasScratch) {engine : ε}
    (hopen : h.engine = some engine) (op : Op) (world : ω) :
    Engine.delaysPassed (engineCalls op (h, world)) =
        (delayGiven op (h, world)).toList.map StreamDelay.hintMs ∧
      (step op (h, world)).2.1.streamDelay = (delayGiven op (h, world)).getD h.streamDelay := by
  rw [engineCalls_of_open hscratch hopen]
  cases op with
  | processFloat direction frame declared =>
    cases hrefusal : h.refusal direction frame.length declared with
    | some e =>
      rw [step_processFloat_of_refused hrefusal]
      simp only [asked, hrefusal]
      exact ⟨rfl, rfl⟩
    | none =>
      rw [step_processFloat_of_accepted hscratch hopen hrefusal]
      simp only [asked, hrefusal]
      exact ⟨delaysPassed_followUp direction _, streamDelay_settle direction _ _ _ _ _⟩
  | processPcm direction frame declared =>
    cases hrefusal : h.refusal direction frame.length declared with
    | some e =>
      rw [step_processPcm_of_refused hrefusal]
      simp only [asked, hrefusal]
      exact ⟨rfl, rfl⟩
    | none =>
      rw [step_processPcm_of_accepted hopen hrefusal]
      simp only [asked, hrefusal]
      exact ⟨delaysPassed_followUp direction _, streamDelay_settle direction _ _ _ _ _⟩
  | applyConfig config =>
    rcases hcall : Engine.applyConfig config engine world with ⟨result, engine', world'⟩
    simp only [delayGiven, appliedConfig, step, applyConfig, hopen, asked, hcall]
    cases result with
    | error e => exact ⟨rfl, rfl⟩
    | ok _ => exact ⟨rfl, rfl⟩
  | destroy =>
    simp only [step, destroy, hopen]
    exact ⟨rfl, rfl⟩
  | setStreamDelay delay =>
    simp only [step, setStreamDelay, hopen]
    exact ⟨rfl, rfl⟩
  | reset | setAnalogLevel _ | setOutputMuted _ | setKeyPressed _ | streamDelayMs
  | recommendedLevel =>
    rw [step_passedOn hopen rfl]
    exact ⟨rfl, rfl⟩

/-- What is known about the delay of a handle created for a configuration, as long as the handle is
open. -/
structure DelayKept (config : Config) (world₀ : ω) (s₀ : Handle ε × ω) : Prop where
  /-- Creation passes a delay known in advance, and no other. -/
  created : Engine.delaysPassed (callsDuring ε config [] world₀) =
    match config.streamDelay with
    | .agnostic => []
    | .fixed ms => [ms]
  /-- The handle remembers the delay given last. -/
  remembered (ops : List Op) : .destroy ∉ ops →
    (History.after step ops s₀).1.streamDelay =
      (History.latest step delayGiven ops s₀).getD config.streamDelay
  /-- The engine was told last what the handle remembers, or never told anything. -/
  agreed (ops : List Op) : .destroy ∉ ops →
    let passed := Engine.delaysPassed (callsDuring ε config ops world₀)
    let delay := (History.after step ops s₀).1.streamDelay
    passed.getLast? = some delay.hintMs ∨ passed = [] ∧ delay = .agnostic
  /-- A call that gives a delay passes it on, and no other call passes any or changes the one
  remembered. -/
  single (ops : List Op) (op : Op) : .destroy ∉ ops →
    let s := History.after step ops s₀
    Engine.delaysPassed (callsDuring ε config (ops ++ [op]) world₀) =
        Engine.delaysPassed (callsDuring ε config ops world₀) ++
          (delayGiven op s).toList.map StreamDelay.hintMs ∧
      (step op s).2.1.streamDelay = (delayGiven op s).getD s.1.streamDelay

/-- A new handle has the delay of its configuration. -/
theorem streamDelay_of_create {config : Config} {world world' : ω} {h : Handle ε}
    (hcreate : create config world = (.ok h, world')) : h.streamDelay = config.streamDelay := by
  obtain ⟨_, _, _, -, rfl, -⟩ := exists_of_create hcreate
  rfl

/-- The delay of every handle is kept. -/
theorem delayKept [LawfulEngine ε ω] {config : Config} {world₀ world : ω} {h : Handle ε}
    (hcreate : create config world₀ = (.ok h, world)) : DelayKept config world₀ (h, world) := by
  have hready := ready_of_create hcreate
  have hdelay := streamDelay_of_create hcreate
  have hsingle (ops : List Op) (op : Op) (hops : .destroy ∉ ops) :
      let s := History.after step ops (h, world)
      Engine.delaysPassed (callsDuring ε config (ops ++ [op]) world₀) =
          Engine.delaysPassed (callsDuring ε config ops world₀) ++
            (delayGiven op s).toList.map StreamDelay.hintMs ∧
        (step op s).2.1.streamDelay = (delayGiven op s).getD s.1.streamDelay := by
    obtain ⟨hscratch, engine, hopen⟩ := hready.after hops
    obtain ⟨hpassed, hremembered⟩ :=
      delay_step hscratch hopen op (History.after step ops (h, world)).2
    refine ⟨?_, hremembered⟩
    rw [callsDuring_concat hcreate, ← hpassed]
    exact List.filterMap_append
  refine ⟨?_, ?_, ?_, hsingle⟩
  · rw [callsDuring_nil hcreate]
    cases config.streamDelay <;> rfl
  · intro ops hops
    rw [← hdelay]
    apply History.observe_after delayGiven (fun s => s.1.streamDelay) (Ready.step_of_mem hops)
    · intro op hop s hs
      obtain ⟨hscratch, engine, hopen⟩ := hs
      exact (delay_step hscratch hopen op s.2).2
    · exact hready
  · intro ops
    -- The latest call is the last one of the list, so the list grows at its end.
    induction ops using List.reverseRecOn with
    | nil =>
      intro _
      rw [callsDuring_nil hcreate, History.after_nil, hdelay]
      cases config.streamDelay with
      | agnostic => exact .inr ⟨rfl, rfl⟩
      | fixed ms => exact .inl rfl
    | append_singleton ops op ih =>
      intro hops
      have hbefore : .destroy ∉ ops := fun hmem => hops (List.mem_append_left _ hmem)
      obtain ⟨hpassed, hremembered⟩ := hsingle ops op hbefore
      simp only [History.after_append, History.after_cons, History.after_nil]
      rw [hpassed, hremembered]
      cases delayGiven op (History.after step ops (h, world)) with
      | none =>
        rw [Option.toList_none, List.map_nil, List.append_nil]
        exact ih hbefore
      | some delay => exact .inl List.getLast?_concat

end Handle

namespace Bypass

/-- A level is moved into its range. -/
theorem toInt_clampLevel (high x : Int32) (hhigh : 0 ≤ high) :
    (clampLevel high x).toInt = max 0 (min x.toInt high.toInt) := by
  rw [Int32.le_iff_toInt_le, Int32.toInt_zero] at hhigh
  rw [clampLevel]
  simp only [Int32.lt_iff_toInt_lt, Int32.toInt_zero]
  split
  · rw [Int32.toInt_zero]
    omega
  · split <;> omega

/-- Of all calls only the delay hint changes the delay of the engine. -/
theorem delayMs_step (call : Engine.Op) (s : Bypass × Unit) :
    (Engine.step call s).2.1.delayMs =
      (call.delayPassed.map (clampLevel maxDelayMs)).getD s.1.delayMs := by
  cases call with
  | processFloat _ _ | processPcm _ _ =>
    refine kept_of_isFrame Bypass.delayMs ?_ rfl s
    intro b direction power
    cases direction <;> rfl
  | hint hint => cases hint <;> rfl
  | _ => rfl

/-- The engine has the delay passed last. -/
theorem delayMs_after (calls : List Engine.Op) (s : Bypass × Unit) :
    (History.after Engine.step calls s).1.delayMs =
      ((Engine.delaysPassed calls).getLast?.map (clampLevel maxDelayMs)).getD s.1.delayMs := by
  induction calls using List.reverseRecOn with
  | nil => rfl
  | append_singleton calls call ih =>
    rw [History.after_append, History.after_cons, History.after_nil, delayMs_step, ih,
      Engine.delaysPassed, Engine.delaysPassed, List.filterMap_append]
    cases hpassed : call.delayPassed with
    | none =>
      rw [List.filterMap_cons_none hpassed, List.filterMap_nil, List.append_nil]
      rfl
    | some ms =>
      rw [List.filterMap_cons_some hpassed, List.filterMap_nil, List.getLast?_concat]
      rfl

/-- An open handle remembers the delay that the engine has moved into its range. -/
theorem delayMs_of_reachable {h : Handle Bypass} (hreachable : Handle.Reachable (h, ()))
    {b : Bypass} (hopen : h.engine = some b) :
    b.delayMs = clampLevel maxDelayMs h.streamDelay.hintMs := by
  have hall := History.Reachable.invariant (P := fun s : Handle Bypass × Unit =>
    s.1.HasScratch ∧ ∀ b, s.1.engine = some b →
      b.delayMs = clampLevel maxDelayMs s.1.streamDelay.hintMs) ?_ ?_ hreachable
  · exact hall.2 b hopen
  · rintro ⟨h, world'⟩ ⟨config, world, hcreate⟩
    obtain ⟨_, _, ⟨made, _⟩, hmade, rfl, -⟩ := Handle.exists_of_create hcreate
    refine ⟨Handle.hasScratch_opened _ _ _ _, ?_⟩
    rintro _ ⟨⟩
    cases hmade
    simp only [delayMs_after, Handle.opened]
    cases config.streamDelay with
    | agnostic => rfl
    | fixed ms => rfl
  · rintro op ⟨h, world⟩ ⟨hscratch, hdelay⟩
    refine ⟨hscratch.of_geometry (Handle.geometry_step hscratch op world), ?_⟩
    intro b' hopen'
    cases hengine : h.engine with
    | none =>
      rw [Handle.step_closed hengine] at hopen'
      cases hengine.symm.trans hopen'
    | some b =>
      by_cases hop : op = .destroy
      · rw [hop, Handle.step_destroy hengine] at hopen'
        cases hopen'
      · obtain ⟨hpassed, hremembered⟩ := Handle.delay_step hscratch hengine op world
        rw [(Handle.engine_step hscratch hengine hop world).1] at hopen'
        cases hopen'
        rw [delayMs_after, ← Handle.engineCalls_of_open hscratch hengine, hpassed, hremembered]
        cases Handle.delayGiven op (h, world) with
        | none => exact hdelay b hengine
        | some delay => rfl

end Bypass

/-- On every engine the delay of a handle is kept, and the bypass engine reads it in its range. -/
theorem delayHint_neverDrifts :
    (∀ {ε ω : Type} [Engine ε ω] [LawfulEngine ε ω] (config : Config) (world₀ world : ω)
        (h : Handle ε), Handle.create config world₀ = (.ok h, world) →
      Handle.DelayKept config world₀ (h, world)) ∧
    ∀ (h : Handle Bypass), Handle.Reachable (h, ()) → h.isClosed = false →
      ∃ ms, (h.streamDelayMs ()).1 = some ms ∧
        ms.toInt = max 0 (min h.streamDelay.hintMs.toInt 500) := by
  refine ⟨fun config world₀ world h hcreate => Handle.delayKept hcreate, ?_⟩
  intro h hreachable hopen
  obtain ⟨b, hengine⟩ := Handle.exists_engine hopen
  refine ⟨b.delayMs, ?_, ?_⟩
  · simp only [Handle.streamDelayMs, Handle.read, hengine]
    rfl
  · rw [Bypass.delayMs_of_reachable hreachable hengine]
    exact Bypass.toInt_clampLevel _ _ (by decide)

/-- A delay known in advance is forwarded at creation and one that is set later after it. The handle
remembers the latter, and the bypass engine reads the most that it can have. -/
theorem delayHint_neverDrifts_of_late :
    let config : Config := { echoCanceller := some { streamDelay := .fixed 40 } }
    let ops : List Handle.Op := [.setStreamDelay (.fixed 700), .reset]
    ∃ h : Handle Bypass, Handle.create config () = (.ok h, ()) ∧
      (History.after Handle.step ops (h, ())).1.streamDelay = .fixed 700 ∧
      Engine.delaysPassed (Handle.callsDuring Bypass config ops ()) = [40, 700] ∧
      ∃ ms, ((History.after Handle.step ops (h, ())).1.streamDelayMs ()).1 = some ms ∧
        ms.toInt = 500 := by
  intro config ops
  obtain ⟨h, hcreate⟩ : ∃ h : Handle Bypass, Handle.create config () = (.ok h, ()) := ⟨_, rfl⟩
  have hkept := delayHint_neverDrifts.1 config () () h hcreate
  have hops : .destroy ∉ ops := by simp [ops]
  have hdelay := hkept.remembered ops hops
  have hreachable : Handle.Reachable (History.after Handle.step ops (h, ())) :=
    (History.Reachable.of_initial Handle.step ⟨config, (), hcreate⟩).later Handle.step ops
  obtain ⟨-, engine, hengine⟩ := (Handle.ready_of_create hcreate).after hops
  refine ⟨h, hcreate, hdelay, ?_, ?_⟩
  · have hset := (hkept.single [] (.setStreamDelay (.fixed 700)) (by simp)).1
    have hreset := (hkept.single [.setStreamDelay (.fixed 700)] .reset (by simp)).1
    rw [List.nil_append, hkept.created] at hset
    rw [hset] at hreset
    exact hreset
  · obtain ⟨ms, hreading, hvalue⟩ := delayHint_neverDrifts.2
      (History.after Handle.step ops (h, ())).1 hreachable (Handle.isClosed_of_open hengine)
    rw [hdelay] at hvalue
    exact ⟨ms, hreading, hvalue⟩

end VoiceProcessing
