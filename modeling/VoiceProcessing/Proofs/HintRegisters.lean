import Mathlib.Logic.Function.Basic
import VoiceProcessing.Proofs.EchoReport

/-!
# The registers of the bypass engine

The bypass engine keeps the four hints in registers of their own. A hint moves into its range and
replaces what its register held, and nothing else: no frame, no reset and no other hint touches it.
So a register holds the hint given last, or what it held at first, and hints for different registers
can be given in either order. A handle gives hints through its setters, and one more when it
replaces the configuration, which brings a delay of its own.

The engine alone and the handle around it are treated as one kind of object.
-/

namespace VoiceProcessing

/-- The hints that an engine keeps at the same time. -/
inductive Register where
  | delay
  | analogLevel
  | outputMuted
  | keyPressed
  deriving DecidableEq

/-- What a register holds as long as no hint was given for it. -/
def Register.initial : Register → Hint
  | .delay => .delay 0
  | .analogLevel => .analogLevel 255
  | .outputMuted => .outputMuted false
  | .keyPressed => .keyPressed false

namespace Hint

/-- The register that a hint is for. -/
def register : Hint → Register
  | .delay _ => .delay
  | .analogLevel _ => .analogLevel
  | .outputMuted _ => .outputMuted
  | .keyPressed _ => .keyPressed

/-- A hint moved into its range: delays lie between 0 and 500, and levels between 0 and 255. -/
def inRange : Hint → Hint
  | .delay ms => .delay (Int32.ofInt (max 0 (min ms.toInt 500)))
  | .analogLevel level => .analogLevel (Int32.ofInt (max 0 (min level.toInt 255)))
  | .outputMuted muted => .outputMuted muted
  | .keyPressed pressed => .keyPressed pressed

/-- The register of a hint does not depend on its range. -/
@[simp] theorem register_inRange (hint : Hint) : hint.inRange.register = hint.register := by
  cases hint <;> rfl

/-- A level that was moved between zero and a bound is an integer there. -/
theorem toInt_ofInt_clamp (high : Int) (hlow : 0 ≤ high) (hhigh : high ≤ 500) (x : Int32) :
    (Int32.ofInt (max 0 (min x.toInt high))).toInt = max 0 (min x.toInt high) :=
  Int32.toInt_ofInt_of_le (by omega) (by omega)

/-- Moving a hint into its range a second time changes nothing. -/
theorem inRange_inRange (hint : Hint) : hint.inRange.inRange = hint.inRange := by
  cases hint with
  | delay ms =>
    have hclamped := toInt_ofInt_clamp 500 (by decide) (by decide) ms
    simp only [inRange, hclamped]
    congr 2
    omega
  | analogLevel level =>
    have hclamped := toInt_ofInt_clamp 255 (by decide) (by decide) level
    simp only [inRange, hclamped]
    congr 2
    omega
  | outputMuted muted => rfl
  | keyPressed pressed => rfl

end Hint

namespace Bypass

/-- What the engine reports of each hint. -/
def held (b : Bypass) : Register → Hint
  | .delay => .delay (Engine.delayMs b ()).1
  | .analogLevel => .analogLevel (Engine.recommendedLevel b ()).1
  | .outputMuted => .outputMuted b.outputMuted
  | .keyPressed => .keyPressed b.keyPressed

/-- What the engine keeps besides the hints. -/
def besides (b : Bypass) :
    Config × StreamFormat × StreamFormat × Option Binary64 × EngineStats :=
  (b.config, b.capture, b.render, b.renderPower, b.stats)

/-- There is nothing else in an engine. -/
theorem eq_of_held {b b' : Bypass} (hheld : b.held = b'.held) (hbesides : b.besides = b'.besides) :
    b = b' := by
  have hdelay := congrFun hheld .delay
  have hlevel := congrFun hheld .analogLevel
  have hmuted := congrFun hheld .outputMuted
  have hkey := congrFun hheld .keyPressed
  cases b
  cases b'
  cases hbesides
  cases hdelay
  cases hlevel
  cases hmuted
  cases hkey
  rfl

/-- A level is moved into the range that its bound gives. -/
theorem clampLevel_eq {high : Int32} (hhigh : 0 ≤ high) (hbound : high.toInt ≤ 500) (x : Int32) :
    clampLevel high x = Int32.ofInt (max 0 (min x.toInt high.toInt)) := by
  have hlow : 0 ≤ high.toInt := Int32.le_iff_toInt_le.mp hhigh
  apply Int32.toInt_inj.mp
  rw [toInt_clampLevel high x hhigh, Hint.toInt_ofInt_clamp _ hlow hbound]

/-- A hint replaces what its register holds. -/
theorem held_takeHint (b : Bypass) (hint : Hint) :
    (b.takeHint hint).held = Function.update b.held hint.register hint.inRange := by
  funext r
  by_cases hr : r = hint.register
  · subst hr
    rw [Function.update_self]
    cases hint with
    | delay ms => exact congrArg Hint.delay (clampLevel_eq (by decide) (by decide) ms)
    | analogLevel level =>
      exact congrArg Hint.analogLevel (clampLevel_eq (by decide) (by decide) level)
    | outputMuted muted => rfl
    | keyPressed pressed => rfl
  · rw [Function.update_of_ne hr]
    cases r with
    | delay =>
      cases hint with
      | delay ms => exact absurd rfl hr
      | _ => rfl
    | analogLevel =>
      cases hint with
      | analogLevel level => exact absurd rfl hr
      | _ => rfl
    | outputMuted =>
      cases hint with
      | outputMuted muted => exact absurd rfl hr
      | _ => rfl
    | keyPressed =>
      cases hint with
      | keyPressed pressed => exact absurd rfl hr
      | _ => rfl

/-- A hint changes nothing besides. -/
@[simp] theorem besides_takeHint (b : Bypass) (hint : Hint) :
    (b.takeHint hint).besides = b.besides := by
  cases hint <;> rfl

/-- Hints for different registers can be given in either order. -/
theorem takeHint_comm (b : Bypass) {first second : Hint}
    (hdiffer : first.register ≠ second.register) :
    (b.takeHint first).takeHint second = (b.takeHint second).takeHint first := by
  apply eq_of_held
  · rw [held_takeHint, held_takeHint, held_takeHint, held_takeHint, Function.update_comm hdiffer]
  · rw [besides_takeHint, besides_takeHint, besides_takeHint, besides_takeHint]

/-- Taking note of a frame leaves the registers alone. -/
@[simp] theorem held_observe (b : Bypass) (direction : Direction) (power : Binary64) :
    (b.observe direction power).held = b.held := by
  funext r
  cases direction <;> cases r <;> rfl

end Bypass

/-- An object with a bypass engine inside, as far as hints and configurations are concerned. -/
structure HintKeeper where
  /-- The calls that can be made on the object. -/
  Op : Type
  Reply : Type
  State : Type
  step : Op → State → Reply × State
  /-- The hint that a call gives to the engine, if it does. -/
  given : Op → State → Option Hint
  /-- The configuration that a call makes the engine accept, if it does. -/
  accepted : Op → State → Option Config
  /-- What can be read of a register, as long as there is an engine. -/
  shown : State → Register → Option Hint
  /-- The configuration of the engine, as long as there is one. -/
  configured : State → Option Config
  /-- Whether a call gives up the engine. -/
  ends : Op → Prop

namespace HintKeeper

/-- The hint that a call gives for a register, if it does. -/
def givenFor (k : HintKeeper) (r : Register) (op : k.Op) (s : k.State) : Option Hint :=
  (k.given op s).filter fun hint => hint.register = r

/-- From a state on, with registers as given and a configuration, whatever calls are made that do
not give up the engine, each register holds the hint given for it last. -/
structure KeepsHints (k : HintKeeper) (initial : Register → Hint) (config : Config)
    (s₀ : k.State) : Prop where
  /-- A register shows the hint given for it last, in its range, or else what it showed at first. -/
  shows (ops : List k.Op) : (∀ op ∈ ops, ¬k.ends op) → ∀ r,
    k.shown (History.after k.step ops s₀) r =
      some (((History.latest k.step (k.givenFor r) ops s₀).map Hint.inRange).getD (initial r))
  /-- The configuration is the one accepted last, or else the one of the beginning. -/
  configured (ops : List k.Op) : (∀ op ∈ ops, ¬k.ends op) →
    k.configured (History.after k.step ops s₀) =
      some ((History.latest k.step k.accepted ops s₀).getD config)
  /-- The delay lies between 0 and 500. -/
  delay (ops : List k.Op) : (∀ op ∈ ops, ¬k.ends op) → ∃ ms,
    k.shown (History.after k.step ops s₀) .delay = some (.delay ms) ∧
      0 ≤ ms.toInt ∧ ms.toInt ≤ 500
  /-- A call that gives no hint for a register leaves it as it is. -/
  untouched (ops : List k.Op) (op : k.Op) : (∀ op' ∈ ops, ¬k.ends op') → ¬k.ends op → ∀ r,
    (∀ hint, k.given op (History.after k.step ops s₀) = some hint → hint.register ≠ r) →
      k.shown (k.step op (History.after k.step ops s₀)).2 r =
        k.shown (History.after k.step ops s₀) r
  /-- A call that makes the engine accept no configuration leaves it the one that it has. -/
  unconfigured (ops : List k.Op) (op : k.Op) : (∀ op' ∈ ops, ¬k.ends op') → ¬k.ends op →
    k.accepted op (History.after k.step ops s₀) = none →
      k.configured (k.step op (History.after k.step ops s₀)).2 =
        k.configured (History.after k.step ops s₀)

/-- What is to be shown of single calls, in states with a property that all calls keep. -/
structure Writes (k : HintKeeper) (P : k.State → Prop) : Prop where
  keeps : ∀ op s, ¬k.ends op → P s → P (k.step op s).2
  shows : ∀ op s, ¬k.ends op → P s → ∀ r hint, k.shown s r = some hint →
    k.shown (k.step op s).2 r = some (((k.givenFor r op s).map Hint.inRange).getD hint)
  configures : ∀ op s, ¬k.ends op → P s → ∀ config, k.configured s = some config →
    k.configured (k.step op s).2 = some ((k.accepted op s).getD config)

variable {k : HintKeeper}

/-- A hint given for a register is one of that register. -/
theorem register_of_givenFor {r : Register} {op : k.Op} {s : k.State} {hint : Hint}
    (hgiven : k.givenFor r op s = some hint) : hint.register = r := by
  have hfilter := (Option.filter_eq_some_iff.mp hgiven).2
  exact of_decide_eq_true hfilter

/-- A delay in its range. -/
theorem exists_delay {hint : Hint} (hregister : hint.register = .delay)
    (hrange : hint.inRange = hint) :
    ∃ ms, hint = .delay ms ∧ 0 ≤ ms.toInt ∧ ms.toInt ≤ 500 := by
  cases hint with
  | delay ms =>
    have hclamped := Hint.toInt_ofInt_clamp 500 (by decide) (by decide) ms
    have hsame : Int32.ofInt (max 0 (min ms.toInt 500)) = ms := Hint.delay.inj hrange
    rw [hsame] at hclamped
    exact ⟨ms, rfl, by omega, by omega⟩
  | _ => cases hregister

/-- What single calls do gives what histories do. -/
theorem Writes.keepsHints {P : k.State → Prop} (h : k.Writes P) {initial : Register → Hint}
    {config : Config} {s₀ : k.State} (hs₀ : P s₀) (hshown : ∀ r, k.shown s₀ r = some (initial r))
    (hconfig : k.configured s₀ = some config) (hregister : (initial .delay).register = .delay)
    (hrange : (initial .delay).inRange = initial .delay) : k.KeepsHints initial config s₀ := by
  have hshows (ops : List k.Op) (hops : ∀ op ∈ ops, ¬k.ends op) (r : Register) :
      k.shown (History.after k.step ops s₀) r =
        some (((History.latest k.step (k.givenFor r) ops s₀).map Hint.inRange).getD
          (initial r)) := by
    rw [← History.latest_map]
    exact History.observe_after_of_some _ (fun s => k.shown s r)
      (fun op hop s => h.keeps op s (hops op hop))
      (fun op hop s hs => h.shows op s (hops op hop) hs r) hs₀ (hshown r)
  have hconfigured (ops : List k.Op) (hops : ∀ op ∈ ops, ¬k.ends op) :
      k.configured (History.after k.step ops s₀) =
        some ((History.latest k.step k.accepted ops s₀).getD config) :=
    History.observe_after_of_some k.accepted k.configured
      (fun op hop s => h.keeps op s (hops op hop))
      (fun op hop s => h.configures op s (hops op hop)) hs₀ hconfig
  have hkept (ops : List k.Op) (hops : ∀ op ∈ ops, ¬k.ends op) : P (History.after k.step ops s₀) :=
    History.after_invariant_of_mem k.step (fun op hop s => h.keeps op s (hops op hop)) hs₀
  refine ⟨hshows, hconfigured, ?_, ?_, ?_⟩
  · intro ops hops
    rw [hshows ops hops]
    cases hgiven : History.latest k.step (k.givenFor .delay) ops s₀ with
    | none =>
      obtain ⟨ms, hms, hrange⟩ := exists_delay hregister hrange
      exact ⟨ms, congrArg some hms, hrange⟩
    | some hint =>
      obtain ⟨before, op, later, -, hevent, -⟩ :=
        (History.latest_eq_some_iff k.step (k.givenFor .delay) ops s₀ hint).mp hgiven
      have hdelay : hint.inRange.register = .delay :=
        (Hint.register_inRange hint).trans (register_of_givenFor hevent)
      obtain ⟨ms, hms, hrange⟩ := exists_delay hdelay (Hint.inRange_inRange hint)
      exact ⟨ms, congrArg some hms, hrange⟩
  · intro ops op hops hop r hother
    have hnone : k.givenFor r op (History.after k.step ops s₀) = none := by
      apply Option.filter_eq_none_iff.mpr
      intro hint hgiven hregister
      exact hother hint hgiven (of_decide_eq_true hregister)
    rw [h.shows op _ hop (hkept ops hops) r _ (hshows ops hops r), hnone, hshows ops hops r]
    rfl
  · intro ops op hops hop hnone
    rw [h.configures op _ hop (hkept ops hops) _ (hconfigured ops hops), hnone,
      hconfigured ops hops]
    rfl

end HintKeeper

namespace Engine

/-- The hint that a call gives to an engine, if it does. -/
def Op.hintGiven : Op → Option Hint
  | .hint given => some given
  | _ => none

/-- The configuration that a call makes an engine accept, if it does. -/
def appliedConfig {ε ω : Type} [Engine ε ω] (op : Op) (s : ε × ω) : Option Config :=
  match op, (step op s).1 with
  | .applyConfig config, .result (.ok ()) => some config
  | _, _ => none

end Engine

namespace Register

/-- What the registers hold after a call, given what they held before and the hint of the call, if
it has one. -/
def overwrite (held : Register → Hint) : Option Hint → Register → Hint
  | some hint => Function.update held hint.register hint.inRange
  | none => held

/-- A register holds what the hint of the call leaves, if that is for the register. -/
theorem overwrite_eq_getD (held : Register → Hint) (given : Option Hint) (r : Register) :
    overwrite held given r =
      ((given.filter fun hint => hint.register = r).map Hint.inRange).getD (held r) := by
  cases given with
  | none => rfl
  | some hint =>
    by_cases hr : hint.register = r
    · subst hr
      simp only [overwrite, Function.update_self, Option.filter_some, decide_true, if_true,
        Option.map_some, Option.getD_some]
    · simp only [overwrite, Function.update_of_ne (Ne.symm hr), Option.filter_some, hr,
        decide_false, Bool.false_eq_true, if_false, Option.map_none, Option.getD_none]

end Register

namespace Bypass

/-- The bypass engine by itself as an object that keeps hints. -/
abbrev hintKeeper : HintKeeper where
  Op := Engine.Op
  Reply := Engine.Reply
  State := Bypass × Unit
  step := Engine.step
  given op _ := op.hintGiven
  accepted op s := Engine.appliedConfig op s
  shown s r := some (s.1.held r)
  configured s := some s.1.config
  ends _ := False

/-- Of all calls only a hint touches the registers. -/
theorem held_step (call : Engine.Op) (s : Bypass × Unit) :
    (Engine.step call s).2.1.held = Register.overwrite s.1.held call.hintGiven := by
  cases call with
  | processFloat _ _ | processPcm _ _ => exact kept_of_isFrame held held_observe rfl s
  | hint hint => exact held_takeHint s.1 hint
  | reset | applyConfig _ | statistics | delayMs | recommendedLevel =>
    funext r
    cases r <;> rfl

/-- Taking note of a frame leaves the configuration alone. -/
theorem config_observe (b : Bypass) (direction : Direction) (power : Binary64) :
    (b.observe direction power).config = b.config := by
  cases direction <;> rfl

/-- Of all calls only one that is accepted with a configuration replaces it. -/
theorem config_step (call : Engine.Op) (s : Bypass × Unit) :
    (Engine.step call s).2.1.config = (Engine.appliedConfig call s).getD s.1.config := by
  cases call with
  | processFloat _ _ | processPcm _ _ => exact kept_of_isFrame Bypass.config config_observe rfl s
  | hint hint => cases hint <;> rfl
  | reset | applyConfig _ | statistics | delayMs | recommendedLevel => rfl

/-- A single call on the bypass engine replaces what it should. -/
theorem hintKeeper_writes : hintKeeper.Writes fun _ => True where
  keeps _ _ _ _ := trivial
  shows op s _ _ r hint hshown := by
    cases hshown
    simp only [held_step]
    exact congrArg some (Register.overwrite_eq_getD s.1.held op.hintGiven r)
  configures op s _ _ config hconfig := by
    cases hconfig
    exact congrArg some (config_step op s)

/-- What the registers of a new engine hold. -/
theorem held_of_create {config : Config} {capture render : StreamFormat} {b : Bypass}
    (hcreate : Engine.create config capture render () = (.ok b, ())) :
    b.held = Register.initial := by
  cases hcreate
  funext r
  cases r <;> rfl

end Bypass

namespace Handle

/-- The hint that a setter of hints gives, if the call is one. -/
def Op.setter : Op → Option Hint
  | .setStreamDelay delay => some (.delay delay.hintMs)
  | .setAnalogLevel level => some (.analogLevel level)
  | .setOutputMuted muted => some (.outputMuted muted)
  | .setKeyPressed pressed => some (.keyPressed pressed)
  | _ => none

/-- The hint that a call gives to the engine of an open handle, if it does: that of a setter, or the
delay of a configuration that is accepted. -/
def hintGiven {ε ω : Type} [Engine ε ω] (op : Op) (s : Handle ε × ω) : Option Hint :=
  op.setter.or ((appliedConfig op s).map fun config => .delay config.streamDelay.hintMs)

/-- What there is to read of each register, as long as the handle is open. -/
def shown (h : Handle Bypass) : Register → Option Hint
  | .delay => (h.streamDelayMs ()).1.map .delay
  | .analogLevel => (h.recommendedLevel ()).1.map .analogLevel
  | .outputMuted => h.engine.map fun b => .outputMuted b.outputMuted
  | .keyPressed => h.engine.map fun b => .keyPressed b.keyPressed

/-- The handle on a bypass engine as an object that keeps hints. -/
abbrev hintKeeper : HintKeeper where
  Op := Op
  Reply := Reply
  State := Handle Bypass × Unit
  step := step
  given := hintGiven
  accepted := appliedConfig
  shown s := s.1.shown
  configured s := s.1.engine.map Bypass.config
  ends op := op = .destroy

variable {h : Handle Bypass} {b : Bypass}

/-- An open handle shows what its engine holds. -/
theorem shown_of_open (hopen : h.engine = some b) (r : Register) : h.shown r = some (b.held r) := by
  cases r with
  | delay => simp only [shown, streamDelayMs, read, hopen]; rfl
  | analogLevel => simp only [shown, recommendedLevel, read, hopen]; rfl
  | outputMuted => simp only [shown, hopen]; rfl
  | keyPressed => simp only [shown, hopen]; rfl

/-- Unless it gives up the engine, a call on an open handle touches the registers of the engine only
with the hint that it gives. -/
theorem held_call (hscratch : h.HasScratch) (hopen : h.engine = some b) {op : Op}
    (hop : op ≠ .destroy) :
    ∃ b', (step op (h, ())).2.1.engine = some b' ∧
      b'.held = Register.overwrite b.held (hintGiven op (h, ())) := by
  cases hpower : op.power with
  | some frame =>
    have hnone : hintGiven op (h, ()) = none := by
      cases op with
      | processFloat direction frame declared => rfl
      | processPcm direction frame declared => rfl
      | _ => cases hpower
    rw [hnone]
    rcases Bypass.step_frame hscratch hopen hpower with ⟨-, hengine, -⟩ | ⟨-, hengine⟩
    · exact ⟨_, hengine, Bypass.held_observe b frame.1 frame.2⟩
    · exact ⟨_, hengine, rfl⟩
  | none =>
    cases op with
    | processFloat direction frame declared => cases hpower
    | processPcm direction frame declared => cases hpower
    | destroy => exact absurd rfl hop
    | applyConfig config =>
      simp only [hintGiven, appliedConfig, step, applyConfig, hopen]
      exact ⟨_, rfl, Bypass.held_step (.hint (.delay config.streamDelay.hintMs)) (_, ())⟩
    | setStreamDelay delay =>
      simp only [step, setStreamDelay, hopen]
      exact ⟨_, rfl, Bypass.held_takeHint b (.delay delay.hintMs)⟩
    | reset | setAnalogLevel _ | setOutputMuted _ | setKeyPressed _ | streamDelayMs
    | recommendedLevel =>
      rw [step_passedOn hopen rfl]
      exact ⟨_, rfl, Bypass.held_step _ (b, ())⟩

/-- A single call on a ready handle replaces what it should. -/
theorem hintKeeper_writes : hintKeeper.Writes Ready where
  keeps op s hop hs := hs.step hop
  shows op s hop hs r hint hshown := by
    obtain ⟨hscratch, b, hopen⟩ := hs
    obtain ⟨b', hopen', hheld⟩ := held_call hscratch hopen hop
    simp only [shown_of_open hopen] at hshown
    cases hshown
    simp only [shown_of_open hopen', hheld]
    exact congrArg some (Register.overwrite_eq_getD b.held (hintGiven op s) r)
  configures op s hop hs config hconfig := by
    obtain ⟨b, hopen, rfl⟩ := Option.map_eq_some_iff.mp hconfig
    obtain ⟨b', hopen', hafter, -⟩ := Bypass.registers_step hs.1 hopen hop
    exact Option.map_eq_some_iff.mpr ⟨b', hopen', hafter⟩

/-- In a new handle the registers hold what they do in a new engine, but for the delay, which is
that of the configuration. -/
theorem shown_of_create {config : Config} (hcreate : create config () = (.ok h, ()))
    (r : Register) :
    h.shown r =
      some (Register.overwrite Register.initial (some (.delay config.streamDelay.hintMs)) r) := by
  obtain ⟨_, _, ⟨made, _⟩, hmade, rfl, -⟩ := exists_of_create hcreate
  have hforwarded : (History.after Engine.step (forwarded config.streamDelay) (made, ())).1.held =
      Register.overwrite made.held (some (.delay config.streamDelay.hintMs)) := by
    cases config.streamDelay with
    | agnostic =>
      -- Nothing is forwarded, and the delay is that of a new engine.
      rw [Bypass.held_of_create hmade]
      exact (Bypass.held_of_create hmade).trans
        (Function.update_eq_self Register.delay Register.initial).symm
    | fixed ms => exact Bypass.held_takeHint made (.delay ms)
  rw [shown_of_open rfl, hforwarded, Bypass.held_of_create hmade]

/-- The delay that a setter has the handle remember, if it does. -/
def Op.delaySet : Op → Option StreamDelay
  | .setStreamDelay delay => some delay
  | _ => none

/-- A setter of a hint for another register than the delay has no delay remembered. -/
theorem Op.delaySet_eq_none {op : Op} {hint : Hint} (hsetter : op.setter = some hint)
    (hother : hint.register ≠ .delay) : op.delaySet = none := by
  cases op with
  | setStreamDelay delay =>
    cases hsetter
    exact absurd rfl hother
  | _ => rfl

/-- What a setter does: the engine takes the hint, and a handle that has one may remember it. -/
theorem step_setter (h : Handle Bypass) {op : Op} {hint : Hint} (hsetter : op.setter = some hint) :
    step op (h, ()) =
      (.done,
        { h with
          engine := h.engine.map (·.takeHint hint)
          streamDelay := if h.isClosed then h.streamDelay else op.delaySet.getD h.streamDelay },
        ()) := by
  obtain ⟨engine, capture, render, channels, samples, streamDelay, statistics⟩ := h
  cases op with
  | setStreamDelay _ | setAnalogLevel _ | setOutputMuted _ | setKeyPressed _ =>
    cases hsetter
    cases engine <;> rfl
  | _ => cases hsetter

/-- Setters of hints for different registers can be called in either order. -/
theorem run_setters {first second : Op} {hint hint' : Hint} (hfirst : first.setter = some hint)
    (hsecond : second.setter = some hint') (hdiffer : hint.register ≠ hint'.register)
    (s : Handle Bypass × Unit) :
    History.run step [first, second] s = History.run step [second, first] s := by
  -- At most one of the two has a delay remembered.
  have hdelay (delay : StreamDelay) : second.delaySet.getD (first.delaySet.getD delay) =
      first.delaySet.getD (second.delaySet.getD delay) := by
    by_cases hregister : hint.register = .delay
    · have hother : hint'.register ≠ .delay := fun hsame => hdiffer (hregister.trans hsame.symm)
      rw [Op.delaySet_eq_none hsecond hother, Option.getD_none, Option.getD_none]
    · rw [Op.delaySet_eq_none hfirst hregister, Option.getD_none, Option.getD_none]
  have hengine (b : Bypass) := Bypass.takeHint_comm b hdiffer
  obtain ⟨h, world⟩ := s
  simp only [History.run, step_setter _ hfirst, step_setter _ hsecond, isClosed,
    Option.isNone_map, Option.map_map, Function.comp_def, hengine]
  by_cases hclosed : h.engine.isNone = true
  · simp only [hclosed, if_true]
  · simp only [hclosed, Bool.false_eq_true, if_false, hdelay]

end Handle

/-- On a bypass engine, by itself or in a handle, each hint is kept in a register of its own, which
holds the one given last; and hints for different registers can be given in either order. -/
theorem hints_areRegisters :
    (∀ (config : Config) (capture render : StreamFormat) (b : Bypass),
      Engine.create config capture render () = (.ok b, ()) →
        Bypass.hintKeeper.KeepsHints Register.initial config (b, ())) ∧
    (∀ (config : Config) (h : Handle Bypass), Handle.create config () = (.ok h, ()) →
      Handle.hintKeeper.KeepsHints
        (Register.overwrite Register.initial (some (.delay config.streamDelay.hintMs)))
        config (h, ())) ∧
    (∀ (first second : Hint), first.register ≠ second.register →
      ∀ (ops : List Engine.Op) (s : Bypass × Unit),
        History.run Engine.step (.hint first :: .hint second :: ops) s =
          History.run Engine.step (.hint second :: .hint first :: ops) s) ∧
    ∀ (first second : Handle.Op) (hint hint' : Hint), first.setter = some hint →
      second.setter = some hint' → hint.register ≠ hint'.register →
        ∀ (ops : List Handle.Op) (s : Handle Bypass × Unit),
          Handle.run (first :: second :: ops) s = Handle.run (second :: first :: ops) s := by
  refine ⟨?_, ?_, ?_, ?_⟩
  · intro config capture render b hcreate
    have hheld := Bypass.held_of_create hcreate
    refine Bypass.hintKeeper_writes.keepsHints trivial
      (fun r => congrArg some (congrFun hheld r)) ?_ rfl rfl
    cases hcreate
    rfl
  · intro config h hcreate
    obtain ⟨b, hengine, hconfig, -⟩ := Bypass.registers_of_create hcreate
    refine Handle.hintKeeper_writes.keepsHints (Handle.ready_of_create hcreate)
      (Handle.shown_of_create hcreate) ?_ rfl ?_
    · exact congrArg (Option.map Bypass.config) hengine |>.trans (congrArg some hconfig)
    · exact Hint.inRange_inRange (.delay config.streamDelay.hintMs)
  · intro first second hdiffer ops s
    have hswap : History.run Engine.step [.hint first, .hint second] s =
        History.run Engine.step [.hint second, .hint first] s :=
      congrArg (fun b => ([Engine.Reply.done, Engine.Reply.done], (b, ())))
        (Bypass.takeHint_comm s.1 hdiffer)
    exact History.run_append_congr Engine.step hswap ops
  · intro first second hint hint' hfirst hsecond hdiffer ops s
    exact History.run_append_congr Handle.step
      (Handle.run_setters hfirst hsecond hdiffer s) ops

/-- A level too low and a delay too high are moved into their ranges. A refused frame, a reset and a
configuration with a delay of its own leave the level alone, and it could have been set first. -/
theorem hints_areRegisters_of_extremes :
    let delay : Handle.Op := .setStreamDelay (.fixed 700)
    let level : Handle.Op := .setAnalogLevel (-5)
    let later : List Handle.Op := [.processPcm .capture [] 1, .reset, .applyConfig {}]
    ∃ h : Handle Bypass, Handle.create {} () = (.ok h, ()) ∧
      (History.after Handle.step [delay, level] (h, ())).1.shown .delay = some (.delay 500) ∧
      (History.after Handle.step (delay :: level :: later) (h, ())).1.shown .analogLevel =
        some (.analogLevel 0) ∧
      (History.after Handle.step (delay :: level :: later) (h, ())).1.shown .delay =
        some (.delay 0) ∧
      Handle.run (delay :: level :: later) (h, ()) =
        Handle.run (level :: delay :: later) (h, ()) := by
  intro delay level later
  obtain ⟨h, hcreate⟩ : ∃ h : Handle Bypass, Handle.create {} () = (.ok h, ()) := ⟨_, rfl⟩
  have hkept := hints_areRegisters.2.1 {} h hcreate
  have hset : ∀ op ∈ [delay, level], ¬Handle.hintKeeper.ends op := by simp [delay, level]
  have hall : ∀ op ∈ delay :: level :: later, ¬Handle.hintKeeper.ends op := by
    simp [delay, level, later]
  refine ⟨h, hcreate, hkept.shows _ hset .delay, ?_, ?_, ?_⟩
  · cases hcreate
    exact hkept.shows _ hall .analogLevel
  · cases hcreate
    exact hkept.shows _ hall .delay
  · exact hints_areRegisters.2.2.2 delay level _ _ rfl rfl (by decide) later (h, ())

end VoiceProcessing
