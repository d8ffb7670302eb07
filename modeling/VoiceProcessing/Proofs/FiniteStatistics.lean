import VoiceProcessing.Proofs.FiniteLoss
import VoiceProcessing.Proofs.ProcessorRefinement

/-!
# When statistics stay finite

Of all that the bypass engine reports, only the echo return loss is computed from samples. It is
finite as long as no sample is infinite. But a frame with an infinite sample, none that is not a
number, and an audible frame in the other direction result in a loss that is not finite, and the
snapshot keeps it until another frame is captured.
-/

namespace VoiceProcessing

open Binary

namespace History

/-- What holds initially, and after a call exactly if the call is no exception as long as it held
before, holds throughout a history exactly if none of its calls is an exception. -/
theorem throughout_iff {Op : Type} {P : List Op → Prop} {exception : List Op → Op → Prop}
    (begins : P [])
    (continues : ∀ before op, P before → (P (before ++ [op]) ↔ ¬exception before op))
    (ops : List Op) :
    (∀ before, before <+: ops → P before) ↔
      ∀ before op later, ops = before ++ op :: later → ¬exception before op := by
  constructor
  · intro hall before op later hsplit
    have hbefore : P before := hall before ⟨op :: later, hsplit.symm⟩
    have hafter : P (before ++ [op]) := hall _ ⟨later, by rw [hsplit, List.append_assoc]; rfl⟩
    exact (continues before op hbefore).mp hafter
  · intro hnone before hprefix
    induction before using List.reverseRecOn with
    | nil => exact begins
    | append_singleton before op ih =>
      obtain ⟨later, hsplit⟩ := hprefix
      rw [List.append_assoc] at hsplit
      exact (continues before op (ih ⟨_, hsplit⟩)).mpr (hnone before op later hsplit.symm)

end History

/-- Besides the echo return loss, a snapshot holds finite numbers, and delays that are not negative
and at most the greatest delay where they are estimates. -/
structure Statistics.Sound (s : Statistics) : Prop where
  enhancement : s.echoReturnLossEnhancement.isFinite = true
  divergence : s.divergentFilterFraction.isFinite = true
  likelihood : s.residualEchoLikelihood.isFinite = true
  delayMedian : 0 ≤ s.delayMedianMs.toInt ∧ s.delayMedianMs.toInt ≤ 500
  delayDeviation : 0 ≤ s.delayDeviationMs.toInt
  delay : 0 ≤ s.delayMs.toInt ∧ s.delayMs.toInt ≤ 500

namespace Bypass

/-- The snapshot that has nothing to report is sound. -/
theorem sound_empty : ({} : Statistics).Sound :=
  ⟨isFinite_zero, isFinite_zero, isFinite_zero, by decide, by decide, by decide⟩

/-- So is every report with a delay in its range. -/
theorem sound_echoReport {config : Config} {delayMs : Int32} {rendered : Option Binary64}
    {captured : Binary64} (hdelay : 0 ≤ delayMs.toInt ∧ delayMs.toInt ≤ 500) :
    (echoReport config delayMs rendered captured).Sound := by
  unfold echoReport
  split
  · exact sound_empty
  · exact ⟨isFinite_zero, isFinite_zero, isFinite_zero, hdelay, Int.le_refl 0, hdelay⟩

/-- The delay of the engine of a reachable handle is in its range. -/
theorem delayMs_range {h : Handle Bypass} (hreachable : Handle.Reachable (h, ())) {b : Bypass}
    (hopen : h.engine = some b) : 0 ≤ b.delayMs.toInt ∧ b.delayMs.toInt ≤ 500 := by
  have hclamped := toInt_clampLevel maxDelayMs h.streamDelay.hintMs (by decide)
  have hmost : maxDelayMs.toInt = 500 := rfl
  rw [delayMs_of_reachable hreachable hopen]
  omega

end Bypass

namespace Handle

open Bypass Power

/-- The samples in the frame of a call, as numbers. -/
def Op.samples : Op → List Binary32
  | .processFloat _ frame _ => frame
  | .processPcm _ frame _ => frame.map Pcm.decode
  | _ => []

/-- The power of a frame that is accepted gauges its samples. -/
theorem gauges_of_isSuccess {s : Handle Bypass × Unit} {op : Op} {direction : Direction}
    {power : Binary64} (hpower : op.power = some (direction, power))
    (hsuccess : (step op s).1.isSuccess = true) : Gauges op.samples frameSquares power := by
  obtain ⟨h, world⟩ := s
  cases op with
  | processFloat direction' frame declared =>
    cases hrefusal : h.refusal direction' frame.length declared with
    | some e =>
      rw [step_processFloat_of_refused hrefusal] at hsuccess
      cases hsuccess
    | none =>
      cases hpower
      obtain ⟨-, rfl, hlength⟩ := open_of_refusal_eq_none hrefusal
      exact gauges_ofFrame hlength
  | processPcm direction' frame declared =>
    cases hrefusal : h.refusal direction' frame.length declared with
    | some e =>
      rw [step_processPcm_of_refused hrefusal] at hsuccess
      cases hsuccess
    | none =>
      cases hpower
      obtain ⟨-, -, hlength⟩ := open_of_refusal_eq_none hrefusal
      exact gauges_ofPcm hlength
  | _ => cases hpower

/-- The power that is remembered of a history gauges the samples of one of its calls. -/
theorem gauges_rendered {s : Handle Bypass × Unit} {ops : List Op} {power : Binary64}
    (hlatest : (History.latest step rendered ops s).getD none = some power) :
    ∃ op ∈ ops, Gauges op.samples frameSquares power := by
  have hsome : History.latest step rendered ops s = some (some power) := by
    cases hfound : History.latest step rendered ops s with
    | none =>
      rw [hfound] at hlatest
      cases hlatest
    | some remembered =>
      rw [hfound] at hlatest
      exact congrArg some hlatest
  obtain ⟨before, op, later, rfl, hevent, -⟩ := (History.latest_eq_some_iff ..).mp hsome
  refine ⟨op, List.mem_append_right _ List.mem_cons_self, ?_⟩
  unfold rendered at hevent
  split at hevent
  next power' hpower =>
    split at hevent
    next hsuccess =>
      cases hevent
      exact gauges_of_isSuccess hpower hsuccess
    next => cases hevent
  next => cases hevent
  next =>
    split at hevent
    · cases hevent
    · cases hevent

/-- A capture frame that succeeds has a power and leaves a report on it. -/
theorem statistics_of_captures {s : Handle Bypass × Unit} (hscratch : s.1.HasScratch) {op : Op}
    (hcaptures : (frontEnd Bypass Unit).captures op s = true) :
    ∃ b captured, s.1.engine = some b ∧ op.power = some (.capture, captured) ∧
      Gauges op.samples frameSquares captured ∧
      (step op s).2.1.statistics = echoReport b.config b.delayMs b.renderPower captured := by
  cases hopen : s.1.engine with
  | none =>
    rw [captures_of_closed hopen] at hcaptures
    cases hcaptures
  | some b =>
    obtain ⟨hcapture, hsuccess⟩ := Bool.and_eq_true_iff.mp hcaptures
    obtain ⟨captured, hpower⟩ := Op.power_of_isCapture hcapture
    refine ⟨b, captured, rfl, hpower, gauges_of_isSuccess hpower hsuccess, ?_⟩
    rcases step_frame hscratch hopen hpower with ⟨-, -, hreport⟩ | ⟨hfailure, -⟩
    · rw [← flatten_measure]
      exact hreport rfl
    · exact absurd (hsuccess.symm.trans hfailure) Bool.noConfusion

/-- No other call leaves anything but the old snapshot or an empty one. -/
theorem statistics_of_not_captures {s : Handle Bypass × Unit} (hs : Orderly s) {op : Op}
    (hnone : (frontEnd Bypass Unit).captures op s = false) :
    (step op s).2.1.statistics = s.1.statistics ∨ (step op s).2.1.statistics = {} := by
  by_cases hop : op = .destroy
  · right
    subst hop
    exact (hs.step .destroy).2 (engine_destroy s.1 s.2)
  · left
    have hwrites := refreshes.writes op s hs hop
    rw [FrontEnd.report, hnone] at hwrites
    exact hwrites

/-- Whether the call that follows a history captures a frame and reports a loss that is computed
from an infinite power. -/
def Overloads (config : Config) (s₀ : Handle Bypass × Unit) (before : List Op) (op : Op) : Prop :=
  let accepted := (History.latest step appliedConfig before s₀).getD config
  let remembered := (History.latest step rendered before s₀).getD none
  (frontEnd Bypass Unit).captures op (History.after step before s₀) = true ∧
    accepted.echoCanceller.isSome = true ∧
    ∃ captured, op.power = some (.capture, captured) ∧ Overloaded remembered captured

variable {config : Config} {h : Handle Bypass}

/-- An overload needs an infinite sample, in the frame or in an earlier one. -/
theorem exists_infinite_of_overloads {s₀ : Handle Bypass × Unit} {before : List Op} {op : Op}
    (hoverloads : Overloads config s₀ before op) :
    ∃ op' ∈ before ++ [op], ∃ sample ∈ op'.samples, sample.isInfinite = true := by
  obtain ⟨hcaptures, -, captured, hpower, power, hremembered, -, -, hinfinite⟩ := hoverloads
  rcases hinfinite with hinfinite | hinfinite
  · obtain ⟨op', hmem, hgauges⟩ := gauges_rendered hremembered
    exact ⟨op', List.mem_append_left _ hmem, (hgauges.isInfinite_iff.mp hinfinite).1⟩
  · have hsuccess := (Bool.and_eq_true_iff.mp hcaptures).2
    have hgauges := gauges_of_isSuccess hpower hsuccess
    exact ⟨op, List.mem_append_right _ (List.mem_singleton_self op),
      (hgauges.isInfinite_iff.mp hinfinite).1⟩

/-- The snapshot of a new handle is empty. -/
theorem statistics_of_create (hcreate : create config () = (.ok h, ())) : h.statistics = {} := by
  obtain ⟨_, _, _, -, rfl, -⟩ := exists_of_create hcreate
  rfl

/-- After every history the snapshot is sound. -/
theorem sound_after (hcreate : create config () = (.ok h, ())) (ops : List Op) :
    (History.after step ops (h, ())).1.statistics.Sound := by
  have hcreated : Reachable (h, ()) := History.Reachable.of_initial step ⟨config, (), hcreate⟩
  induction ops using List.reverseRecOn with
  | nil =>
    rw [History.after_nil, statistics_of_create hcreate]
    exact sound_empty
  | append_singleton ops op ih =>
    have hreachable : Reachable (History.after step ops (h, ())) := hcreated.later step ops
    rw [History.after_append, History.after_cons, History.after_nil]
    cases hcaptures : (frontEnd Bypass Unit).captures op (History.after step ops (h, ())) with
    | true =>
      obtain ⟨b, captured, hopen, -, -, hreport⟩ :=
        statistics_of_captures hreachable.hasScratch hcaptures
      rw [hreport]
      exact sound_echoReport (delayMs_range hreachable hopen)
    | false =>
      rcases statistics_of_not_captures hreachable.orderly hcaptures with hkept | hcleared
      · rw [hkept]
        exact ih
      · rw [hcleared]
        exact sound_empty

/-- A call after which the loss is no longer finite overloads, and the other way round. -/
theorem isFinite_append_iff (hcreate : create config () = (.ok h, ())) {before : List Op} {op : Op}
    (hfinite : (History.after step before (h, ())).1.statistics.echoReturnLoss.isFinite = true) :
    (History.after step (before ++ [op]) (h, ())).1.statistics.echoReturnLoss.isFinite = true ↔
      ¬Overloads config (h, ()) before op := by
  have hready := ready_of_create hcreate
  have hreachable : Reachable (History.after step before (h, ())) :=
    (History.Reachable.of_initial step ⟨config, (), hcreate⟩).later step before
  rw [History.after_append, History.after_cons, History.after_nil]
  cases hcaptures : (frontEnd Bypass Unit).captures op (History.after step before (h, ())) with
  | false =>
    refine iff_of_true ?_ fun hoverloads => Bool.noConfusion (hcaptures.symm.trans hoverloads.1)
    rcases statistics_of_not_captures hreachable.orderly hcaptures with hkept | hcleared
    · rw [hkept]
      exact hfinite
    · rw [hcleared]
      exact isFinite_zero
  | true =>
    obtain ⟨b, captured, hopen, hpower, hgauges, hreport⟩ :=
      statistics_of_captures hreachable.hasScratch hcaptures
    -- Only an open handle captures, and its engine remembers what the history has left in it.
    have hbefore : .destroy ∉ before := by
      intro hended
      have hclosed := (isClosed_after hready.1 before).mpr (.inr hended)
      rw [isClosed_of_open hopen] at hclosed
      cases hclosed
    obtain ⟨hconfig, hremembered⟩ := registers_after hcreate hbefore hopen
    have hoverloads : Overloads config (h, ()) before op ↔
        b.config.echoCanceller.isSome = true ∧ Overloaded b.renderPower captured := by
      rw [hconfig, hremembered]
      constructor
      · rintro ⟨-, hcanceller, _, hpower', hoverloaded⟩
        cases hpower.symm.trans hpower'
        exact ⟨hcanceller, hoverloaded⟩
      · rintro ⟨hcanceller, hoverloaded⟩
        exact ⟨hcaptures, hcanceller, captured, hpower, hoverloaded⟩
    rw [hreport, hoverloads]
    refine isFinite_echoReport_iff _ _ ?_ hgauges
    intro power hpower
    obtain ⟨op', -, hgauges'⟩ := gauges_rendered (hremembered.symm.trans hpower)
    exact ⟨op'.samples, hgauges'⟩

end Handle

/-- What becomes of the snapshot from a state on, whatever calls are made, if some of them overload.
A call has the samples in its frame, and overloads or not depending on the calls before it. -/
structure KeepsFinite {Op State Reply : Type} (step : Op → State → Reply × State)
    (snapshot : State → Statistics) (samples : Op → List Binary32)
    (overloads : List Op → Op → Prop) (s₀ : State) : Prop where
  sound (ops : List Op) : (snapshot (History.after step ops s₀)).Sound
  /-- The echo return loss is finite throughout a history exactly if no call overloads. -/
  isFinite_iff (ops : List Op) :
    (∀ before, before <+: ops →
        (snapshot (History.after step before s₀)).echoReturnLoss.isFinite = true) ↔
      ∀ before op later, ops = before ++ op :: later → ¬overloads before op
  /-- No call overloads unless an infinite sample has been passed. -/
  exists_infinite (before : List Op) (op : Op) : overloads before op →
    ∃ op' ∈ before ++ [op], ∃ sample ∈ samples op', sample.isInfinite = true

/-- Where no infinite sample is passed, the echo return loss is finite too. -/
theorem KeepsFinite.isFinite_after {Op State Reply : Type} {step : Op → State → Reply × State}
    {snapshot : State → Statistics} {samples : Op → List Binary32}
    {overloads : List Op → Op → Prop} {s₀ : State}
    (hkeeps : KeepsFinite step snapshot samples overloads s₀) {ops : List Op}
    (hnone : ∀ op ∈ ops, ∀ sample ∈ samples op, sample.isInfinite = false) :
    (snapshot (History.after step ops s₀)).echoReturnLoss.isFinite = true := by
  refine (hkeeps.isFinite_iff ops).mpr ?_ ops (List.prefix_refl ops)
  rintro before op later rfl hoverloads
  obtain ⟨op', hmem, sample, hsample, hinfinite⟩ := hkeeps.exists_infinite before op hoverloads
  have hpassed : op' ∈ before ++ op :: later := by
    rw [List.append_cons]
    exact List.mem_append_left later hmem
  exact Bool.noConfusion (hinfinite.symm.trans (hnone op' hpassed sample hsample))

/-- A new handle keeps its snapshot finite but for overloads. -/
theorem Handle.keepsFinite {config : Config} {h : Handle Bypass}
    (hcreate : create config () = (.ok h, ())) :
    KeepsFinite step (fun s => s.1.statistics) Op.samples (Overloads config (h, ())) (h, ()) where
  sound := sound_after hcreate
  isFinite_iff := by
    refine History.throughout_iff ?_ fun before op => isFinite_append_iff hcreate
    rw [History.after_nil, statistics_of_create hcreate]
    exact Bypass.isFinite_zero
  exists_infinite before op := exists_infinite_of_overloads

namespace Processor

/-- The samples in the frame of a call, as numbers. -/
def Op.samples : Op → List Binary32
  | .processCapture frame | .processRender frame => frame
  | .processCapturePcm frame | .processRenderPcm frame => frame.map Pcm.decode
  | _ => []

/-- Whether the call that follows a history makes the handle of a processor report a loss that is
computed from an infinite power. -/
def Overloads (config : Config) (s₀ : Processor Bypass × Unit) (before : List Op) (op : Op) :
    Prop :=
  Handle.Overloads config (inner s₀) (before.map (Op.onHandle config.channelCount))
    (op.onHandle config.channelCount)

/-- The handle is called with the samples that the processor is called with. -/
theorem samples_onHandle (counts : Direction → Nat) (op : Op) :
    (op.onHandle counts).samples = op.samples := by
  cases op <;> rfl

/-- A new processor keeps its snapshot finite but for overloads, as its handle does. -/
theorem keepsFinite {config : Config} {p : Processor Bypass}
    (hmade : create config () = (.ok p, ())) :
    KeepsFinite step (fun s => s.1.statistics) Op.samples (Overloads config (p, ())) (p, ()) := by
  obtain ⟨h, hcreate, rfl⟩ := exists_of_create hmade
  have hhandle := Handle.keepsFinite hcreate
  have hsnapshot (ops : List Op) :
      (History.after step ops ((⟨h, config⟩ : Processor Bypass), ())).1.statistics =
        (History.after Handle.step (ops.map (Op.onHandle config.channelCount))
          (h, ())).1.statistics := by
    have hcounts := Handle.channelCount_format_of_create hcreate
    have hscratch := (Handle.ready_of_create hcreate).1
    have hinner := inner_after (s := (⟨h, config⟩, ())) hcounts hscratch ops
    exact congrArg (fun s => s.1.statistics) hinner
  refine ⟨?_, ?_, ?_⟩
  · intro ops
    rw [hsnapshot]
    exact hhandle.sound _
  · refine History.throughout_iff ?_ ?_
    · rw [hsnapshot, List.map_nil, History.after_nil, Handle.statistics_of_create hcreate]
      exact Bypass.isFinite_zero
    · intro before op hfinite
      rw [hsnapshot] at hfinite ⊢
      rw [List.map_append]
      exact Handle.isFinite_append_iff hcreate hfinite
  · intro before op hoverloads
    obtain ⟨_, hmem, hinfinite⟩ := hhandle.exists_infinite _ _ hoverloads
    rw [← List.map_singleton, ← List.map_append] at hmem
    obtain ⟨op', hmem', rfl⟩ := List.mem_map.mp hmem
    rw [samples_onHandle] at hinfinite
    exact ⟨op', hmem', hinfinite⟩

end Processor

/-- All samples are numbers in a frame that is silent after an infinite one. -/
theorem numbers_of_spike (negative : Bool) (n : Nat) :
    ∀ sample ∈ (infinity negative : Binary32) :: List.replicate n 0, sample.isNaN = false := by
  refine List.forall_mem_cons.mpr ⟨isNaN_infinity negative, ?_⟩
  intro sample hmem
  rw [List.eq_of_mem_replicate hmem]
  decide

/-- With the bypass engine all that a snapshot holds is finite, and its delays are in their ranges,
except that the echo return loss is not finite after an overload. A frame overloads if it or the
render frame before it has an infinite sample and both have numbers only and are audible, so there
are no overloads among frames without infinite samples, and 16-bit frames have none. -/
theorem statistics_finiteUnlessOverloaded (config : Config) :
    (∀ h : Handle Bypass, Handle.create config () = (.ok h, ()) →
      KeepsFinite Handle.step (fun s => s.1.statistics) Handle.Op.samples
        (Handle.Overloads config (h, ())) (h, ())) ∧
    (∀ p : Processor Bypass, Processor.create config () = (.ok p, ()) →
      KeepsFinite Processor.step (fun s => s.1.statistics) Processor.Op.samples
        (Processor.Overloads config (p, ())) (p, ())) ∧
    (∀ (s : Handle Bypass × Unit) (op : Handle.Op) (direction : Direction) (power : Binary64),
      op.power = some (direction, power) → (Handle.step op s).1.isSuccess = true →
      (power.isInfinite = true ↔
        (∃ sample ∈ op.samples, sample.isInfinite = true) ∧
          ∀ sample ∈ op.samples, sample.isNaN = false) ∧
      (power.isNaN = true ↔ ∃ sample ∈ op.samples, sample.isNaN = true)) ∧
    ∀ sample : Int16, (Pcm.decode sample).isFinite = true := by
  refine ⟨fun h hcreate => Handle.keepsFinite hcreate, fun p hmade => Processor.keepsFinite hmade,
    ?_, Pcm.isFinite_decode⟩
  intro s op direction power hpower hsuccess
  have hgauges := Handle.gauges_of_isSuccess hpower hsuccess
  exact ⟨hgauges.isInfinite_iff, hgauges.isNaN_iff⟩

/-- Frames of the greatest finite samples, also with one that is not a number among them, leave
finite statistics. The power of a frame with an infinite sample is infinite. -/
theorem statistics_finiteUnlessOverloaded_of_loudest :
    let config : Config := { echoCanceller := some {} }
    let loud : List Binary32 := List.replicate 480 (.ofBits 0x7F7FFFFF)
    let broken : List Binary32 := .nan :: List.replicate 479 (.ofBits 0x7F7FFFFF)
    let infinite : List Binary32 := .infinity true :: List.replicate 479 0
    ∃ (h : Handle Bypass) (p : Processor Bypass),
      Handle.create config () = (.ok h, ()) ∧ Processor.create config () = (.ok p, ()) ∧
      (History.after Handle.step
        [.processFloat .render loud 1, .processFloat .render broken 1,
          .processFloat .capture loud 1]
        (h, ())).1.statistics.echoReturnLoss.isFinite = true ∧
      (History.after Processor.step [.processRender loud, .processCapture broken]
        (p, ())).1.statistics.echoReturnLoss.isFinite = true ∧
      (Power.ofChannels (split 1 infinite)).isInfinite = true := by
  intro config loud broken infinite
  have hloudest (n : Nat) :
      ∀ sample ∈ List.replicate n (.ofBits 0x7F7FFFFF : Binary32), sample.isInfinite = false := by
    intro sample hmem
    rw [List.eq_of_mem_replicate hmem]
    decide
  have hloud : ∀ sample ∈ loud, sample.isInfinite = false := hloudest 480
  have hbroken : ∀ sample ∈ broken, sample.isInfinite = false :=
    List.forall_mem_cons.mpr ⟨by decide, hloudest 479⟩
  obtain ⟨h, hcreate, hsuccess⟩ : ∃ h : Handle Bypass, Handle.create config () = (.ok h, ()) ∧
      (Handle.step (.processFloat .render infinite 1) (h, ())).1.isSuccess = true :=
    ⟨_, rfl, by decide +kernel⟩
  have hmade : Processor.create config () = (.ok (⟨h, config⟩ : Processor Bypass), ()) := by
    simp only [Processor.create, hcreate]
  obtain ⟨hhandle, hprocessor, hpower, -⟩ := statistics_finiteUnlessOverloaded config
  refine ⟨h, ⟨h, config⟩, hcreate, hmade, ?_, ?_, ?_⟩
  · refine (hhandle h hcreate).isFinite_after ?_
    simp only [List.forall_mem_cons]
    exact ⟨hloud, hbroken, hloud, List.forall_mem_nil _⟩
  · refine (hprocessor _ hmade).isFinite_after ?_
    simp only [List.forall_mem_cons]
    exact ⟨hloud, hbroken, List.forall_mem_nil _⟩
  · have hkind := hpower (h, ()) (.processFloat .render infinite 1) .render _ rfl hsuccess
    exact hkind.1.mpr
      ⟨⟨_, List.mem_cons_self, isInfinite_infinity true⟩, numbers_of_spike true 479⟩

/-- After a render frame with an infinite sample, the loss reported with the next audible capture
frame is infinite. -/
theorem echoReturnLoss_infinite_of_sample :
    let config : Config := { echoCanceller := some {} }
    let render : Handle.Op := .processFloat .render (.infinity false :: List.replicate 479 0) 1
    let capture : Handle.Op := .processPcm .capture (16384 :: List.replicate 479 0) 1
    ∃ h : Handle Bypass, Handle.create config () = (.ok h, ()) ∧
      (Handle.step render (h, ())).1.isSuccess = true ∧
      (Handle.step capture (History.after Handle.step [render] (h, ()))).1.isSuccess = true ∧
      (History.after Handle.step [render, capture] (h, ())).1.statistics.echoReturnLoss =
        .infinity false := by
  intro config render capture
  have hmade :
      ∃ h : Handle Bypass, Handle.create config () = (.ok h, ()) ∧
        (Handle.step render (h, ())).1.isSuccess = true ∧
        (Handle.frontEnd Bypass Unit).captures capture
          (History.after Handle.step [render] (h, ())) = true :=
    ⟨_, rfl, by decide +kernel, by decide +kernel⟩
  obtain ⟨h, hcreate, hrender, hcaptures⟩ := hmade
  refine ⟨h, hcreate, hrender, (Bool.and_eq_true_iff.mp hcaptures).2, ?_⟩
  have hrest : .destroy ∉ [render] := by decide
  obtain ⟨hscratch, -⟩ := (Handle.ready_of_create hcreate).after hrest
  obtain ⟨b, captured, hopen, hpower, -, hreport⟩ :=
    Handle.statistics_of_captures hscratch hcaptures
  obtain ⟨hconfig, hrendered⟩ := Bypass.registers_after hcreate hrest hopen
  have hgauges : Power.Gauges render.samples Power.frameSquares _ :=
    Handle.gauges_of_isSuccess rfl hrender
  have hinfinite := hgauges.isInfinite_iff.mpr
    ⟨⟨_, List.mem_cons_self, isInfinite_infinity false⟩, numbers_of_spike false 479⟩
  have hremembered : b.renderPower = some (infinity false) := by
    have hlatest : Handle.rendered render (h, ()) = some (some _) := if_pos hrender
    rw [hgauges.eq_infinity hinfinite] at hlatest
    rw [hrendered, History.latest_cons, History.latest_nil, Option.none_or, hlatest]
    rfl
  have hclick : captured = 1 / 4 / 480 := by
    have hloud : 0 + Power.squared (Pcm.decode 16384) = 1 / 4 := by decide +kernel
    simp only [capture, Handle.Op.power, Option.some.injEq, Prod.mk.injEq, true_and] at hpower
    rw [← hpower, Power.ofPcm_click hloud (by decide +kernel)]
  have hcanceller : b.config.echoCanceller.isSome = true := by
    rw [hconfig]
    rfl
  have hsnapshot : (History.after Handle.step [render, capture] (h, ())).1.statistics =
      Bypass.echoReport b.config b.delayMs b.renderPower captured := hreport
  rw [hsnapshot, Bypass.echoReturnLoss_echoReport hcanceller, hremembered, hclick]
  decide +kernel

end VoiceProcessing
