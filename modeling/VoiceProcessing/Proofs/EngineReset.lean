import VoiceProcessing.Proofs.EngineRefusals
import VoiceProcessing.Proofs.HintRegisters

/-!
# Resetting the bypass engine

A reset takes the bypass engine back to its beginning: to a new engine for the same configuration
and formats that has been given the hints which are in effect. Two things make this an equation
between whole states. The registers of an engine that calls can bring about hold hints in their
ranges, so that giving these hints again restores the registers; and besides the registers, the
configuration and the formats there is only what was learned from frames, which a reset forgets.
-/

namespace VoiceProcessing

/-- If the registers hold hints in their ranges, then they also do after another hint. -/
theorem Register.inRange_overwrite {held : Register → Hint}
    (hrange : ∀ r, (held r).inRange = held r) (given : Option Hint) (r : Register) :
    (overwrite held given r).inRange = overwrite held given r := by
  cases given with
  | none => exact hrange r
  | some hint =>
    by_cases hr : r = hint.register
    · subst hr
      rw [overwrite, Function.update_self]
      exact hint.inRange_inRange
    · rw [overwrite, Function.update_of_ne hr]
      exact hrange r

namespace Bypass

/-- What a register holds is a hint for it. -/
@[simp] theorem register_held (b : Bypass) (r : Register) : (b.held r).register = r := by
  cases r <;> rfl

/-- The registers of every engine that calls can bring about hold hints in their ranges. -/
theorem inRange_held {capture render : StreamFormat} {s : Bypass × Unit}
    (hreachable : Engine.ReachableFor capture render s) (r : Register) :
    (s.1.held r).inRange = s.1.held r := by
  revert r
  refine History.Reachable.invariant
    (P := fun s : Bypass × Unit => ∀ r, (s.1.held r).inRange = s.1.held r) ?_ ?_ hreachable
  · intro s hmade r
    obtain ⟨config, world, hcreate⟩ := hmade
    rw [held_of_create hcreate]
    cases r <;> rfl
  · intro op s hrange r
    rw [held_step]
    exact Register.inRange_overwrite hrange op.hintGiven r

/-- The calls that give the hints held by an engine for some registers. -/
def hintsFor (b : Bypass) (registers : List Register) : List Engine.Op :=
  registers.map fun r => .hint (b.held r)

/-- Given the hints that another engine holds in their ranges, the registers hold the same. -/
theorem held_after_hintsFor {b : Bypass} (hrange : ∀ r, (b.held r).inRange = b.held r)
    (registers : List Register) (s : Bypass × Unit) (r : Register) :
    (History.after Engine.step (b.hintsFor registers) s).1.held r =
      if r ∈ registers then b.held r else s.1.held r := by
  induction registers generalizing s with
  | nil => rfl
  | cons first registers ih =>
    rw [hintsFor, List.map_cons, History.after_cons, ← hintsFor, ih, held_step]
    simp only [Engine.Op.hintGiven, Register.overwrite, register_held, hrange]
    by_cases hfirst : r = first
    · subst hfirst
      simp
    · rw [Function.update_of_ne hfirst]
      simp [hfirst]

/-- Hints change nothing besides. -/
theorem besides_after_hintsFor (b : Bypass) (registers : List Register) (s : Bypass × Unit) :
    (History.after Engine.step (b.hintsFor registers) s).1.besides = s.1.besides := by
  induction registers generalizing s with
  | nil => rfl
  | cons first registers ih =>
    rw [hintsFor, List.map_cons, History.after_cons, ← hintsFor, ih]
    exact besides_takeHint s.1 (b.held first)

/-- An engine without what it has learned from frames. -/
def forget (b : Bypass) : Bypass :=
  { b with renderPower := none, stats := {} }

/-- A reset makes the engine forget, and does nothing else. -/
theorem step_reset (s : Bypass × Unit) :
    Engine.step .reset s = (.result (.ok ()), s.1.forget, ()) := rfl

/-- Forgetting leaves the registers alone. -/
@[simp] theorem held_forget (b : Bypass) : b.forget.held = b.held := by
  funext r
  cases r <;> rfl

/-- What is learned from a frame is forgotten. -/
theorem forget_observe (b : Bypass) (direction : Direction) (power : Binary64) :
    (b.observe direction power).forget = b.forget := by
  cases direction <;> rfl

/-- What a call leaves behind besides what it learned does not depend on what was learned before. -/
theorem forget_step {s t : Bypass × Unit} (hsame : s.1.forget = t.1.forget) (op : Engine.Op) :
    (Engine.step op s).2.1.forget = (Engine.step op t).2.1.forget := by
  -- All but the calls about frames do to the engine without memory what they do to the engine.
  have hcall (s : Bypass × Unit) :
      (Engine.step op s).2.1.forget =
        if op.isFrame then s.1.forget else (Engine.step op (s.1.forget, ())).2.1.forget := by
    cases op with
    | processFloat _ _ | processPcm _ _ => exact kept_of_isFrame forget forget_observe rfl s
    | hint hint => cases hint <;> rfl
    | reset | applyConfig _ | statistics | delayMs | recommendedLevel => rfl
  rw [hcall s, hcall t, hsame]

/-- The calls about frames in a history make no difference besides what was learned. -/
theorem forget_after (ops : List Engine.Op) {s t : Bypass × Unit}
    (hsame : s.1.forget = t.1.forget) :
    (History.after Engine.step ops s).1.forget =
      (History.after Engine.step (ops.filter fun op => !op.isFrame) t).1.forget := by
  induction ops generalizing s t with
  | nil => exact hsame
  | cons op ops ih =>
    rw [History.after_cons]
    cases hframe : op.isFrame with
    | true =>
      rw [List.filter_cons_of_neg (by simp [hframe])]
      exact ih ((kept_of_isFrame forget forget_observe hframe s).trans hsame)
    | false =>
      rw [List.filter_cons_of_pos (by simp [hframe]), History.after_cons]
      exact ih (forget_step hsame op)

/-- What is left of an engine without what it has learned is a new engine that has been given the
hints in effect. -/
theorem forget_eq {capture render : StreamFormat} {b fresh : Bypass}
    (hreachable : Engine.ReachableFor capture render (b, ()))
    (hcreate : Engine.create b.config capture render () = (.ok fresh, ()))
    {registers : List Register} (hall : ∀ r, r ∈ registers) :
    b.forget = (History.after Engine.step (b.hintsFor registers) (fresh, ())).1 := by
  have hrange : ∀ r, (b.held r).inRange = b.held r := inRange_held hreachable
  have hformat := format_of_reachableFor hreachable
  have hcapture : b.capture = capture := congrFun hformat .capture
  have hrender : b.render = render := congrFun hformat .render
  cases hcreate
  apply eq_of_held
  · funext r
    rw [held_after_hintsFor hrange, if_pos (hall r), held_forget]
  · rw [besides_after_hintsFor]
    simp only [besides, forget, hcapture, hrender]

end Bypass

/-- A reset takes the bypass engine to a new engine, made for the same configuration and formats,
that has been given the hints in effect, in whatever order. So both answer everything alike from
then on, the frames of the past make no difference, and a second reset does nothing. -/
theorem reset_startsAfresh (capture render : StreamFormat) (b : Bypass)
    (hreachable : Engine.ReachableFor capture render (b, ())) :
    (∃ fresh, Engine.create b.config capture render () = (.ok fresh, ()) ∧
      ∀ registers : List Register, (∀ r, r ∈ registers) →
        let renewed := History.after Engine.step (b.hintsFor registers) (fresh, ())
        Engine.step .reset (b, ()) = (.result (.ok ()), renewed) ∧
          ∀ later, History.run Engine.step (.reset :: later) (b, ()) =
            (.result (.ok ()) :: (History.run Engine.step later renewed).1,
              (History.run Engine.step later renewed).2)) ∧
    (∀ before later,
      History.run Engine.step later (History.after Engine.step (before ++ [.reset]) (b, ())) =
        History.run Engine.step later
          (History.after Engine.step ((before.filter fun op => !op.isFrame) ++ [.reset])
            (b, ()))) ∧
    Engine.step .reset (Engine.step .reset (b, ())).2 = Engine.step .reset (b, ()) := by
  refine ⟨⟨{ config := b.config, capture, render }, rfl, ?_⟩, ?_, rfl⟩
  · intro registers hall renewed
    have hreset : Engine.step .reset (b, ()) = (.result (.ok ()), renewed) := by
      rw [Bypass.step_reset, Bypass.forget_eq hreachable rfl hall]
    refine ⟨hreset, ?_⟩
    intro later
    rw [History.run, hreset]
  · intro before later
    have hsame := Bypass.forget_after before (s := (b, ())) (t := (b, ())) rfl
    simp only [History.after_append, History.after_cons, History.after_nil, Bypass.step_reset,
      hsame]

/-- An engine that was given a delay too long and has heard a loud frame is after a reset like a new
engine that is given the longest delay. -/
theorem reset_startsAfresh_of_loud :
    let mono : StreamFormat := ⟨1, by decide⟩
    let config : Config := { echoCanceller := some {} }
    let heard : Engine.Op := .processPcm .render (List.replicate 480 16384)
    ∃ made : Bypass, Engine.create config mono mono () = (.ok made, ()) ∧
      History.after Engine.step [.hint (.delay 700), heard, .reset] (made, ()) =
        History.after Engine.step [.hint (.delay 500), .hint (.analogLevel 255),
          .hint (.outputMuted false), .hint (.keyPressed false)] (made, ()) ∧
      History.after Engine.step [.hint (.delay 700), heard, .reset] (made, ()) =
        History.after Engine.step [.hint (.delay 700), .reset] (made, ()) := by
  intro mono config heard
  obtain ⟨made, hcreate⟩ : ∃ made : Bypass, Engine.create config mono mono () = (.ok made, ()) :=
    ⟨_, rfl⟩
  have hframe : heard.isFrame = true := rfl
  have hgiven : heard.hintGiven = none := rfl
  clear_value heard
  have hmade : Engine.ReachableFor mono mono (made, ()) :=
    History.Reachable.of_initial Engine.step ⟨config, (), hcreate⟩
  refine ⟨made, hcreate, ?_, ?_⟩
  · let b := (History.after Engine.step [.hint (.delay 700), heard] (made, ())).1
    have hheld : b.held = Register.overwrite Register.initial (some (.delay 700)) := by
      simp only [b, History.after_cons, History.after_nil, Bypass.held_step, hgiven,
        Bypass.held_of_create hcreate]
      rfl
    have hconfig : b.config = config := by
      have hkept := Bypass.kept_of_isFrame Bypass.config Bypass.config_observe hframe
        (Engine.step (.hint (.delay 700)) (made, ())).2
      cases hcreate
      exact hkept
    obtain ⟨fresh, hfresh, hreset⟩ :=
      (reset_startsAfresh mono mono b
        (hmade.later Engine.step [.hint (.delay 700), heard])).1
    rw [hconfig, hcreate] at hfresh
    cases hfresh
    have hrenewed := (hreset [.delay, .analogLevel, .outputMuted, .keyPressed] (by
      intro r
      cases r <;> simp)).1
    simp only [Bypass.hintsFor, hheld] at hrenewed
    have hstate := congrArg Prod.snd hrenewed
    exact hstate
  · have hfilter : [.hint (.delay 700), heard].filter (fun op => !op.isFrame) =
        [.hint (.delay 700)] := by
      rw [List.filter_cons_of_pos rfl, List.filter_cons_of_neg (by simp [hframe]), List.filter_nil]
    have hforgotten := (reset_startsAfresh mono mono made hmade).2.1 [.hint (.delay 700), heard] []
    rw [hfilter] at hforgotten
    have hstate := congrArg Prod.snd hforgotten
    exact hstate

end VoiceProcessing
