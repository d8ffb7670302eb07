import VoiceProcessing.Proofs.DelayHint
import VoiceProcessing.Proofs.Snapshot

/-!
# What the bypass engine reports

After a capture frame the bypass engine reports how much weaker the frame is than the latest render
frame, and the delay. Four things decide it: the configuration in force, the delay, the power of the
latest render frame since the engine was reset, and the power of the capture frame itself. Nothing
else that happened has any influence.
-/

namespace VoiceProcessing

namespace Handle

/-- The direction and the power of the frame that a call is about. -/
def Op.power : Op → Option (Direction × Binary64)
  | .processFloat direction frame declared =>
    some (direction, Power.ofChannels (split declared frame))
  | .processPcm direction frame _ => some (direction, Power.ofPcm frame)
  | _ => none

/-- The power of the latest render frame as a call leaves it, if it bears on it: an accepted render
frame sets it, and resetting the engine forgets it. -/
def rendered {ε ω : Type} [Engine ε ω] (op : Op) (s : Handle ε × ω) : Option (Option Binary64) :=
  match op.power with
  | some (.render, power) => if (step op s).1.isSuccess then some (some power) else none
  | some (.capture, _) => none
  | none => if op = .reset then some none else none

/-- A call about a capture frame has a power. -/
theorem Op.power_of_isCapture {op : Op} (hcapture : op.isCapture = true) :
    ∃ power, op.power = some (.capture, power) := by
  cases op with
  | processFloat direction frame declared =>
    cases direction with
    | capture => exact ⟨_, rfl⟩
    | render => cases hcapture
  | processPcm direction frame declared =>
    cases direction with
    | capture => exact ⟨_, rfl⟩
    | render => cases hcapture
  | _ => cases hcapture

end Handle

namespace Bypass

/-- Whether a power exceeds one ten-billionth. -/
def Audible (power : Binary64) : Prop :=
  (1 / 10000000000 : Binary64).less power = true

instance (power : Binary64) : Decidable (Audible power) :=
  inferInstanceAs (Decidable (_ = true))

/-- The echo return loss in decibels; zero unless there are two frames and both are audible. -/
def echoLoss (rendered : Option Binary64) (captured : Binary64) : Binary64 :=
  match rendered with
  | some rendered =>
    if Audible rendered ∧ Audible captured then 10 * (rendered / captured).log10 else 0
  | none => 0

/-- The snapshot after a capture frame, given the configuration, the delay, the power of the render
frame, if there was one, and that of the capture frame. -/
def echoReport (config : Config) (delayMs : Int32) (rendered : Option Binary64)
    (captured : Binary64) : Statistics :=
  if config.echoCanceller.isNone then {}
  else
    { echoReturnLoss := echoLoss rendered captured
      echoReturnLossEnhancement := 0
      divergentFilterFraction := 0
      residualEchoLikelihood := 0
      delayMedianMs := delayMs
      delayDeviationMs := 0
      delayMs }

/-- The threshold of silence is one ten-billionth. -/
theorem silencePower_eq : silencePower = 1 / 10000000000 := by
  decide +kernel

/-- A power that is not a number is not audible. -/
theorem not_audible_of_isNaN {power : Binary64} (hnan : power.isNaN = true) : ¬Audible power := by
  simp [Audible, Binary.less, hnan]

/-- There is no loss to speak of when a power is not a number. -/
theorem echoLoss_of_isNaN {rendered : Option Binary64} {captured : Binary64}
    (hnan : captured.isNaN = true ∨ ∃ power, rendered = some power ∧ power.isNaN = true) :
    echoLoss rendered captured = 0 := by
  unfold echoLoss
  cases rendered with
  | none => rfl
  | some power =>
    apply if_neg
    rintro ⟨hrendered, hcaptured⟩
    rcases hnan with hnan | ⟨_, ⟨⟩, hnan⟩
    · exact not_audible_of_isNaN hnan hcaptured
    · exact not_audible_of_isNaN hnan hrendered

/-- The loss that the engine finds, with zero if it finds none. -/
theorem getD_echoReturnLoss (rendered : Option Binary64) (captured : Binary64) :
    (echoReturnLoss rendered captured).getD 0 = echoLoss rendered captured := by
  cases rendered with
  | none => rfl
  | some power =>
    simp only [echoReturnLoss, echoLoss, Audible, silencePower_eq, Bool.and_eq_true]
    exact apply_ite (fun loss : Option Binary64 => loss.getD 0) _ _ _

/-- What the engine measures is what it is to report. -/
theorem flatten_measure (b : Bypass) (power : Binary64) :
    (b.measure power).flatten = echoReport b.config b.delayMs b.renderPower power := by
  unfold measure echoReport
  cases b.config.echoCanceller with
  | none => rfl
  | some settings =>
    rw [← getD_echoReturnLoss]
    rfl

/-- What a call about a frame does to an open handle: if it succeeds, the engine takes note of the
frame, and otherwise it stays as it is. -/
theorem step_frame {h : Handle Bypass} (hscratch : h.HasScratch) {b : Bypass}
    (hopen : h.engine = some b) {op : Handle.Op} {direction : Direction} {power : Binary64}
    (hpower : op.power = some (direction, power)) :
    let s := Handle.step op (h, ())
    (s.1.isSuccess = true ∧ s.2.1.engine = some (b.observe direction power) ∧
        (direction = .capture → s.2.1.statistics = (b.measure power).flatten)) ∨
      (s.1.isSuccess = false ∧ s.2.1.engine = some b) := by
  cases op with
  | processFloat direction' frame declared =>
    obtain ⟨rfl, rfl⟩ := Prod.mk.inj (Option.some.inj hpower)
    cases hrefusal : h.refusal direction' frame.length declared with
    | some e =>
      rw [Handle.step_processFloat_of_refused hrefusal]
      exact .inr ⟨rfl, hopen⟩
    | none =>
      obtain ⟨-, rfl, -⟩ := Handle.open_of_refusal_eq_none hrefusal
      rw [Handle.step_processFloat_of_accepted hscratch hopen hrefusal]
      simp only [Handle.passFloat, Engine.processFloat]
      let channels := split (h.format direction').channelCount frame
      cases checkChannels (b.format direction') channels with
      | error e => exact .inr ⟨rfl, rfl⟩
      | ok _ =>
        cases direction' with
        | capture => exact .inl ⟨rfl, rfl, fun _ => rfl⟩
        | render => exact .inl ⟨rfl, rfl, nofun⟩
  | processPcm direction' frame declared =>
    obtain ⟨rfl, rfl⟩ := Prod.mk.inj (Option.some.inj hpower)
    cases hrefusal : h.refusal direction' frame.length declared with
    | some e =>
      rw [Handle.step_processPcm_of_refused hrefusal]
      exact .inr ⟨rfl, hopen⟩
    | none =>
      rw [Handle.step_processPcm_of_accepted hopen hrefusal]
      simp only [Handle.passPcm, Engine.processPcm]
      cases checkSamples (b.format direction') frame with
      | error e => exact .inr ⟨rfl, rfl⟩
      | ok _ =>
        cases direction' with
        | capture => exact .inl ⟨rfl, rfl, fun _ => rfl⟩
        | render => exact .inl ⟨rfl, rfl, nofun⟩
  | _ => cases hpower

/-- What a call that does not close an open handle does to the configuration of the engine and to
the power of the render frame that it remembers. -/
theorem registers_step {h : Handle Bypass} (hscratch : h.HasScratch) {b : Bypass}
    (hopen : h.engine = some b) {op : Handle.Op} (hop : op ≠ .destroy) :
    ∃ b', (Handle.step op (h, ())).2.1.engine = some b' ∧
      b'.config = (Handle.appliedConfig op (h, ())).getD b.config ∧
      b'.renderPower = (Handle.rendered op (h, ())).getD b.renderPower := by
  -- A call about a frame replaces no configuration, and no other call brings a power.
  cases hpower : op.power with
  | some frame =>
    obtain ⟨direction, power⟩ := frame
    have hconfig : Handle.appliedConfig op (h, ()) = none := by
      cases op with
      | applyConfig config => cases hpower
      | _ => rfl
    simp only [hconfig, Handle.rendered, hpower]
    rcases step_frame hscratch hopen hpower with ⟨hsuccess, hengine, -⟩ | ⟨hfailure, hengine⟩
    · refine ⟨_, hengine, ?_⟩
      cases direction with
      | capture => exact ⟨rfl, rfl⟩
      | render =>
        simp only [hsuccess, if_true]
        exact ⟨rfl, rfl⟩
    · refine ⟨_, hengine, rfl, ?_⟩
      cases direction with
      | capture => rfl
      | render =>
        simp only [hfailure]
        rfl
  | none =>
    cases op with
    | processFloat direction frame declared => cases hpower
    | processPcm direction frame declared => cases hpower
    | destroy => exact absurd rfl hop
    | applyConfig config =>
      simp only [Handle.appliedConfig, Handle.step, Handle.applyConfig, hopen]
      exact ⟨_, rfl, rfl, rfl⟩
    | setStreamDelay delay =>
      simp only [Handle.step, Handle.setStreamDelay, hopen]
      exact ⟨_, rfl, rfl, rfl⟩
    | reset | setAnalogLevel _ | setOutputMuted _ | setKeyPressed _ | streamDelayMs
    | recommendedLevel =>
      rw [Handle.step_passedOn hopen rfl]
      exact ⟨_, rfl, rfl, rfl⟩

/-- A new engine has the configuration it was made for and has not heard anything. -/
theorem registers_of_create {config : Config} {h : Handle Bypass}
    (hcreate : Handle.create config () = (.ok h, ())) :
    ∃ b, h.engine = some b ∧ b.config = config ∧ b.renderPower = none := by
  obtain ⟨_, _, ⟨made, _⟩, hmade, rfl, -⟩ := Handle.exists_of_create hcreate
  cases hmade
  refine ⟨_, rfl, ?_⟩
  cases config.streamDelay <;> exact ⟨rfl, rfl⟩

/-- Through a history the engine has the configuration accepted last, and remembers the power of the
latest render frame since it was reset. -/
theorem registers_after {config : Config} {h : Handle Bypass}
    (hcreate : Handle.create config () = (.ok h, ())) {ops : List Handle.Op}
    (hops : .destroy ∉ ops) {b : Bypass}
    (hopen : (History.after Handle.step ops (h, ())).1.engine = some b) :
    b.config = (History.latest Handle.step Handle.appliedConfig ops (h, ())).getD config ∧
      b.renderPower = (History.latest Handle.step Handle.rendered ops (h, ())).getD none := by
  obtain ⟨b₀, hengine, hconfig₀, hpower₀⟩ := registers_of_create hcreate
  have hready := Handle.ready_of_create hcreate
  have hconfig : (History.after Handle.step ops (h, ())).1.engine.map Bypass.config = _ :=
    History.observe_after_of_some Handle.appliedConfig (fun s => s.1.engine.map Bypass.config)
      (Handle.Ready.step_of_mem hops) ?_ hready (Option.map_eq_some_iff.mpr ⟨b₀, hengine, hconfig₀⟩)
  have hpower : (History.after Handle.step ops (h, ())).1.engine.map Bypass.renderPower = _ :=
    History.observe_after_of_some Handle.rendered (fun s => s.1.engine.map Bypass.renderPower)
      (Handle.Ready.step_of_mem hops) ?_ hready (Option.map_eq_some_iff.mpr ⟨b₀, hengine, hpower₀⟩)
  · rw [hopen] at hconfig hpower
    exact ⟨Option.some.inj hconfig, Option.some.inj hpower⟩
  · intro op hop s hs power hbefore
    obtain ⟨b, hopen, rfl⟩ := Option.map_eq_some_iff.mp hbefore
    obtain ⟨b', hopen', -, hpower⟩ := registers_step hs.1 hopen fun hend => hops (hend ▸ hop)
    exact Option.map_eq_some_iff.mpr ⟨b', hopen', hpower⟩
  · intro op hop s hs config hbefore
    obtain ⟨b, hopen, rfl⟩ := Option.map_eq_some_iff.mp hbefore
    obtain ⟨b', hopen', hconfig, -⟩ := registers_step hs.1 hopen fun hend => hops (hend ▸ hop)
    exact Option.map_eq_some_iff.mpr ⟨b', hopen', hconfig⟩

end Bypass

/-- After every capture frame that succeeds, whatever went before, the snapshot is the report on the
configuration accepted last, the delay of the engine, the latest render frame since the engine was
reset, and this frame. -/
theorem echoReports_followHistory (config : Config) (h : Handle Bypass)
    (hcreate : Handle.create config () = (.ok h, ())) (ops : List Handle.Op) (op : Handle.Op)
    (hcaptures : (Handle.frontEnd Bypass Unit).captures op
      (History.after Handle.step ops (h, ())) = true) :
    let s := History.after Handle.step ops (h, ())
    let accepted := (History.latest Handle.step Handle.appliedConfig ops (h, ())).getD config
    let given := (History.latest Handle.step Handle.delayGiven ops (h, ())).getD config.streamDelay
    let rendered := (History.latest Handle.step Handle.rendered ops (h, ())).getD none
    ∃ delayMs captured,
      (s.1.streamDelayMs ()).1 = some delayMs ∧
      delayMs.toInt = max 0 (min given.hintMs.toInt 500) ∧
      op.power = some (.capture, captured) ∧
      (Handle.step op s).2.1.statistics = Bypass.echoReport accepted delayMs rendered captured ∧
      ((captured.isNaN = true ∨ ∃ power, rendered = some power ∧ power.isNaN = true) →
        (Handle.step op s).2.1.statistics.echoReturnLoss = 0) := by
  intro s accepted given rendered
  have hready := Handle.ready_of_create hcreate
  have hops : .destroy ∉ ops := by
    intro hended
    have hclosed := (Handle.isClosed_after hready.1 ops).mpr (.inr hended)
    rw [Handle.captures_of_closed (Option.isNone_iff_eq_none.mp hclosed)] at hcaptures
    cases hcaptures
  obtain ⟨hscratch, b, hopen⟩ := hready.after hops
  obtain ⟨hconfig, hrendered⟩ := Bypass.registers_after hcreate hops hopen
  have hdelay : b.delayMs = Bypass.clampLevel Bypass.maxDelayMs given.hintMs := by
    have hreachable : Handle.Reachable s :=
      (History.Reachable.of_initial Handle.step ⟨config, (), hcreate⟩).later Handle.step ops
    have hremembered : s.1.streamDelay = given := (Handle.delayKept hcreate).remembered ops hops
    rw [← hremembered]
    exact Bypass.delayMs_of_reachable hreachable hopen
  obtain ⟨hcapture, hsuccess⟩ := Bool.and_eq_true_iff.mp hcaptures
  obtain ⟨captured, hpower⟩ := Handle.Op.power_of_isCapture hcapture
  have hsnapshot : (Handle.step op s).2.1.statistics =
      Bypass.echoReport accepted b.delayMs rendered captured := by
    rcases Bypass.step_frame hscratch hopen hpower with ⟨-, -, hreport⟩ | ⟨hfailure, -⟩
    · simp only [accepted, rendered, ← hconfig, ← hrendered, ← Bypass.flatten_measure]
      exact hreport rfl
    · exact absurd (hsuccess.symm.trans hfailure) Bool.noConfusion
  refine ⟨b.delayMs, captured, ?_, ?_, hpower, hsnapshot, ?_⟩
  · simp only [Handle.streamDelayMs, Handle.read, s, hopen]
    rfl
  · rw [hdelay]
    exact Bypass.toInt_clampLevel _ _ (by decide)
  · intro hnan
    rw [hsnapshot, Bypass.echoReport]
    split
    · rfl
    · exact Bypass.echoLoss_of_isNaN hnan

/-- The power of a frame that is silent after its first sample. -/
theorem Power.ofPcm_click {sample : Int16} {power : Binary64}
    (hpower : 0 + squared (Pcm.decode sample) = power) (hkept : power + 0 = power) (n : Nat) :
    ofPcm (sample :: List.replicate n 0) = power / OfNat.ofNat (n + 1) := by
  have hsilence : squared (Pcm.decode 0) = 0 := by decide +kernel
  have hsum : (List.replicate n (0 : Binary64)).foldl (· + ·) power = power := by
    induction n with
    | zero => rfl
    | succ n ih => rw [List.replicate_succ, List.foldl_cons, hkept, ih]
  simp only [ofPcm, ofSamples, sum, List.map_cons, List.map_replicate, List.length_cons,
    List.length_replicate, hsilence, List.foldl_cons, hpower, hsum]
  exact if_neg (Nat.succ_ne_zero n)

/-- Between a click and another of half its height the loss is that of a ratio of four in power, and
the delay set before is reported within its range. Had the engine been reset in between, there would
be no loss to report. -/
theorem echoReports_followHistory_of_clicks :
    let config : Config := { echoCanceller := some {} }
    let render : Handle.Op := .processPcm .render (16384 :: List.replicate 479 0) 1
    let capture : Handle.Op := .processPcm .capture (8192 :: List.replicate 479 0) 1
    let before : List Handle.Op := [.setStreamDelay (.fixed 700), render]
    ∃ h : Handle Bypass, Handle.create config () = (.ok h, ()) ∧
      (Handle.step capture (History.after Handle.step before (h, ()))).2.1.statistics =
        { echoReturnLoss := 10 * (4 : Binary64).log10, delayMedianMs := 500, delayMs := 500 } ∧
      (Handle.step capture
          (History.after Handle.step (before ++ [.reset]) (h, ()))).2.1.statistics =
        { delayMedianMs := 500, delayMs := 500 } := by
  intro config render capture before
  have hmade :
      ∃ h : Handle Bypass, Handle.create config () = (.ok h, ()) ∧
        (Handle.step render
          (History.after Handle.step (before.take 1) (h, ()))).1.isSuccess = true ∧
        (Handle.frontEnd Bypass Unit).captures capture
          (History.after Handle.step before (h, ())) = true ∧
        (Handle.frontEnd Bypass Unit).captures capture
          (History.after Handle.step (before ++ [.reset]) (h, ())) = true :=
    ⟨_, rfl, by decide +kernel, by decide +kernel, by decide +kernel⟩
  obtain ⟨h, hcreate, hrender, hcapture, hcapture'⟩ := hmade
  have hdelay {delayMs : Int32} (hvalue : delayMs.toInt = 500) : delayMs = 500 :=
    Int32.toInt_inj.mp hvalue
  refine ⟨h, hcreate, ?_, ?_⟩
  · obtain ⟨delayMs, captured, -, hvalue, hpower, hsnapshot, -⟩ :=
      echoReports_followHistory config h hcreate _ capture hcapture
    have hrendered : Handle.rendered render (History.after Handle.step (before.take 1) (h, ())) =
        some (some (Power.ofPcm (16384 :: List.replicate 479 0))) := if_pos hrender
    have hlatest : History.latest Handle.step Handle.rendered before (h, ()) =
        some (some (Power.ofPcm (16384 :: List.replicate 479 0))) :=
      congrArg (fun power : Option (Option Binary64) => (none.or power).or none) hrendered
    have hloud : 0 + Power.squared (Pcm.decode 16384) = 1 / 4 := by decide +kernel
    have hquiet : 0 + Power.squared (Pcm.decode 8192) = 1 / 16 := by decide +kernel
    simp only [capture, Handle.Op.power, Option.some.injEq, Prod.mk.injEq, true_and] at hpower
    rw [Power.ofPcm_click hquiet (by decide +kernel)] at hpower
    rw [Power.ofPcm_click hloud (by decide +kernel)] at hlatest
    rw [hsnapshot, hdelay hvalue, hlatest, ← hpower]
    change Bypass.echoReport config 500 (some (1 / 4 / 480)) (1 / 16 / 480) = _
    decide +kernel
  · obtain ⟨delayMs, captured, -, hvalue, -, hsnapshot, -⟩ :=
      echoReports_followHistory config h hcreate _ capture hcapture'
    rw [hsnapshot, hdelay hvalue]
    rfl

end VoiceProcessing
