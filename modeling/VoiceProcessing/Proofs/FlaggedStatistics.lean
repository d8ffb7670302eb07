import VoiceProcessing.Proofs.EngineReplacement
import VoiceProcessing.Proofs.StatisticsRequests
import VoiceProcessing.Proofs.StatusCodes

/-!
# Values that are not flagged are never seen

The library writes its statistics into a record with a flag beside each value, and what stands
beside a flag that is not set may be anything. Beyond the boundary a program is shown seven of the
values. In each place it finds the value of the latest successful report if that value's own flag is
set, and zero otherwise.

So nothing else that the library writes can reach a program. This is stated of two libraries that
differ in that alone: every program gets the same replies from either, and makes the same calls.

Nothing else is assumed of a library.
-/

namespace VoiceProcessing

namespace Native

namespace Flagged

variable {α : Type}

/-- Two values say the same: both are absent, or both are present and equal. -/
def Agrees (x y : Flagged α) : Prop :=
  x.present = y.present ∧ (x.present = true → x.value = y.value)

instance [DecidableEq α] (x y : Flagged α) : Decidable (x.Agrees y) :=
  inferInstanceAs (Decidable (_ ∧ _))

/-- Values that say the same cannot be told apart by reading them. -/
theorem Agrees.toOption_eq {x y : Flagged α} (h : x.Agrees y) : x.toOption = y.toOption := by
  obtain ⟨hflag, hvalue⟩ := h
  unfold toOption
  rw [← hflag]
  split
  · next hpresent => rw [hvalue hpresent]
  · rfl

/-- A value is read if its flag is set. -/
theorem getD_toOption (x : Flagged α) (missing : α) :
    x.toOption.getD missing = if x.present then x.value else missing := by
  unfold toOption
  split <;> rfl

end Flagged

/-- Two reports say the same in the seven places that are shown. -/
structure NativeStats.SameReport (a b : NativeStats) : Prop where
  echoReturnLoss : a.echoReturnLoss.Agrees b.echoReturnLoss
  echoReturnLossEnhancement : a.echoReturnLossEnhancement.Agrees b.echoReturnLossEnhancement
  divergentFilterFraction : a.divergentFilterFraction.Agrees b.divergentFilterFraction
  residualEchoLikelihood : a.residualEchoLikelihood.Agrees b.residualEchoLikelihood
  delayMedianMs : a.delayMedianMs.Agrees b.delayMedianMs
  delayDeviationMs : a.delayDeviationMs.Agrees b.delayDeviationMs
  delayMs : a.delayMs.Agrees b.delayMs

/-- Reports that say the same have the same snapshot. -/
theorem NativeStats.SameReport.flatten_eq {a b : NativeStats} (h : a.SameReport b) :
    a.toEngineStats.flatten = b.toEngineStats.flatten := by
  simp only [EngineStats.flatten, toEngineStats, h.echoReturnLoss.toOption_eq,
    h.echoReturnLossEnhancement.toOption_eq, h.divergentFilterFraction.toOption_eq,
    h.residualEchoLikelihood.toOption_eq, h.delayMedianMs.toOption_eq,
    h.delayDeviationMs.toOption_eq, h.delayMs.toOption_eq]

/-- A record shows each value of a report whose own flag is set, and zero for the others. -/
structure NativeStats.ShownBy (stats : NativeStats) (record : Boundary.StatisticsRecord) :
    Prop where
  echoReturnLoss : record.echoReturnLoss =
    if stats.echoReturnLoss.present then stats.echoReturnLoss.value else 0
  echoReturnLossEnhancement : record.echoReturnLossEnhancement =
    if stats.echoReturnLossEnhancement.present then stats.echoReturnLossEnhancement.value else 0
  divergentFilterFraction : record.divergentFilterFraction =
    if stats.divergentFilterFraction.present then stats.divergentFilterFraction.value else 0
  residualEchoLikelihood : record.residualEchoLikelihood =
    if stats.residualEchoLikelihood.present then stats.residualEchoLikelihood.value else 0
  delayMedianMs : record.delayMedianMs =
    if stats.delayMedianMs.present then stats.delayMedianMs.value else 0
  delayDeviationMs : record.delayDeviationMs =
    if stats.delayDeviationMs.present then stats.delayDeviationMs.value else 0
  delayMs : record.delayMs = if stats.delayMs.present then stats.delayMs.value else 0

/-- The snapshot of a report shows it. -/
theorem NativeStats.shownBy_flatten (stats : NativeStats) :
    stats.ShownBy (.ofStatistics stats.toEngineStats.flatten) :=
  ⟨Flagged.getD_toOption _ _, Flagged.getD_toOption _ _, Flagged.getD_toOption _ _,
    Flagged.getD_toOption _ _, Flagged.getD_toOption _ _, Flagged.getD_toOption _ _,
    Flagged.getD_toOption _ _⟩

variable {σ ι : Type}

/-- Two libraries answer every call alike, but for what their successful reports leave unsaid and
all that their other reports say. -/
structure Library.ReportsAlike (a b : Library σ ι) : Prop where
  others (call : Call ι) (s : σ) : (∀ ref, call ≠ .statistics ref) →
    b.answer call s = a.answer call s
  status (ref : ι) (s : σ) : (b.answer (.statistics ref) s).1.1 = (a.answer (.statistics ref) s).1.1
  state (ref : ι) (s : σ) : (b.answer (.statistics ref) s).2 = (a.answer (.statistics ref) s).2
  report (ref : ι) (s : σ) : (a.answer (.statistics ref) s).1.1 = Status.ok →
    (a.answer (.statistics ref) s).1.2.SameReport (b.answer (.statistics ref) s).1.2

/-- A call that is not for statistics is the same call of either library. -/
theorem Library.ReportsAlike.call_eq {a b : Library σ ι} (h : a.ReportsAlike b) (call : Call ι)
    (hcall : ∀ ref, call ≠ .statistics ref) (s : Session σ ι) : b.call call s = a.call call s := by
  simp only [Library.call, h.others call s.state hcall]

/-- Libraries that report the same, and grant everything else, report alike. -/
theorem Library.reportsAlike_reporting {a b : NativeStats} (status : Status)
    (h : a.SameReport b) :
    (Library.reporting status a).ReportsAlike (Library.reporting status b) where
  others call s hcall := by
    cases call with
    | statistics ref => exact absurd rfl (hcall ref)
    | _ => rfl
  status _ _ := rfl
  state _ _ := rfl
  report _ _ _ := h

/-- The library was called and then asked for statistics, and the snapshot is that of a successful
report. -/
structure Library.ShowsReport (library : Library σ ι) (ref : ι) (call : Call ι)
    (s s' : Session σ ι) (snapshot : Statistics) : Prop where
  session : s' = (library.call (.statistics ref) (library.call call s).2).2
  snapshot :
    let answer := (library.call (.statistics ref) (library.call call s).2).1
    answer.1 = Status.ok → snapshot = answer.2.toEngineStats.flatten

namespace NativeEngine

/-- After a capture frame that was lent to the library, and reported as a success, the snapshot is
that of the report which follows. -/
theorem showsReport_settle {library : Library σ ι} {F : Type} (frame out : F)
    (h : Handle (NativeEngine library)) (e : NativeEngine library) (call : Call ι)
    (status : call.Answer → Status) (s : Session σ ι) :
    let answer := library.call call s
    let settled := h.settle .capture frame out (checkStatus (status answer.1)) (e, answer.2)
    (Boundary.statusOf settled.1).isSuccess = true →
      library.ShowsReport e.ref call s settled.2.2.2 settled.2.2.1.statistics := by
  intro answer settled hsuccess
  have hresult : settled.1 = _ := Handle.result_settle .capture frame out h _ _
  rw [hresult, mapError_checkStatus, Boundary.Variable.statusOf_ite] at hsuccess
  have hok : status answer.1 = Status.ok := eq_of_beq hsuccess
  simp only [settled, checkStatus, if_pos hok]
  constructor
  · rfl
  · intro asked hreported
    exact congrArg EngineStats.flatten (if_pos hreported)

/-- The engine of another library on the same instance. -/
def onLibrary {a : Library σ ι} (b : Library σ ι) (e : NativeEngine a) : NativeEngine b where
  ref := e.ref
  capture := e.capture
  render := e.render

@[simp] theorem ref_onLibrary {a : Library σ ι} (b : Library σ ι) (e : NativeEngine a) :
    (e.onLibrary b).ref = e.ref := rfl

/-- The formats of the instance stay the same. -/
@[simp] theorem format_onLibrary {a : Library σ ι} (b : Library σ ι) (e : NativeEngine a)
    (direction : Direction) : (e.onLibrary b).format direction = e.format direction := by
  cases direction <;> rfl

/-- It works alike if the libraries report alike. -/
theorem replaces_onLibrary {a b : Library σ ι} (h : a.ReportsAlike b) :
    Engine.Replaces (ω := Session σ ι) (onLibrary (a := a) b) where
  create config capture render s := by
    have hcreate := h.call_eq (.create (.ofConfig config)) (by simp) s
    simp only [Engine.create, create, hcreate]
    rcases a.call (.create (.ofConfig config)) s with ⟨_ | ref, s⟩
    · rfl
    · have hreset := h.call_eq (.reset ref (.ofStream capture) (.ofStream render)) (by simp) s
      simp only [hreset]
      rcases a.call (.reset ref (.ofStream capture) (.ofStream render)) s with ⟨status, s⟩
      have hdestroy := h.call_eq (.destroy ref) (by simp) s
      simp only [hdestroy]
      cases checkStatus status <;> rfl
  reset e s := by
    have hcall := h.call_eq (.reset e.ref e.capture e.render) (by simp) s
    simp only [Engine.reset, onLibrary, hcall]
    rfl
  applyConfig config e s := by
    have hcall := h.call_eq (.applyConfig e.ref (.ofConfig config)) (by simp) s
    simp only [Engine.applyConfig, onLibrary, hcall]
    rfl
  processFloat direction channels e s := by
    have hcall := h.call_eq
      (.processFloat e.ref direction channels (e.format direction) (e.format direction)) (by simp) s
    simp only [Engine.processFloat, processFloat]
    rw [format_onLibrary]
    cases checkChannels (e.format direction) channels with
    | error _ => rfl
    | ok _ =>
      simp only [ref_onLibrary, hcall]
      rfl
  processPcm direction samples e s := by
    have hcall := h.call_eq
      (.processPcm e.ref direction samples (Int32.ofNat samples.length) (e.format direction)
        (e.format direction) (Int32.ofNat samples.length)) (by simp) s
    simp only [Engine.processPcm, processPcm]
    rw [format_onLibrary]
    cases checkSamples (e.format direction) samples with
    | error _ => rfl
    | ok _ =>
      simp only [ref_onLibrary, hcall]
      rfl
  statistics e s := by
    have hstatus := h.status e.ref s.state
    have hstate := h.state e.ref s.state
    have hreport := h.report e.ref s.state
    rcases ha : a.answer (.statistics e.ref) s.state with ⟨⟨status, stats⟩, state⟩
    rcases hb : b.answer (.statistics e.ref) s.state with ⟨⟨status', stats'⟩, state'⟩
    rw [ha, hb] at hstatus hstate hreport
    obtain rfl : status' = status := hstatus
    obtain rfl : state' = state := hstate
    simp only [Engine.statistics, statistics, Library.call, ref_onLibrary, ha, hb]
    by_cases hok : status' = Status.ok
    · simp only [if_pos hok, Prod.map, (hreport hok).flatten_eq]
      rfl
    · simp only [if_neg hok]
      rfl
  hint hint e s := by
    cases hint with
    | delay ms =>
      have hcall := h.call_eq (.setDelay e.ref ms) (by simp) s
      simp only [Engine.hint, NativeEngine.hint, onLibrary, hcall]
      rfl
    | analogLevel level =>
      have hcall := h.call_eq (.setAnalogLevel e.ref level) (by simp) s
      simp only [Engine.hint, NativeEngine.hint, onLibrary, hcall]
      rfl
    | outputMuted muted =>
      have hcall := h.call_eq (.setOutputMuted e.ref muted) (by simp) s
      simp only [Engine.hint, NativeEngine.hint, onLibrary, hcall]
      rfl
    | keyPressed pressed =>
      have hcall := h.call_eq (.setKeyPressed e.ref pressed) (by simp) s
      simp only [Engine.hint, NativeEngine.hint, onLibrary, hcall]
      rfl
  delayMs e s := by
    have hcall := h.call_eq (.delay e.ref) (by simp) s
    simp only [Engine.delayMs, onLibrary, hcall]
    rfl
  recommendedLevel e s := by
    have hcall := h.call_eq (.recommendedLevel e.ref) (by simp) s
    simp only [Engine.recommendedLevel, onLibrary, hcall]
    rfl
  destroy e s := congrArg Prod.snd (h.call_eq (.destroy e.ref) (by simp) s)

end NativeEngine

end Native

namespace Boundary.Variable

open Native

variable {σ ι : Type} {library : Library σ ι} {h : Handle (NativeEngine library)} {s : Session σ ι}
  {e : NativeEngine library}

/-- A refused frame is not reported as a success. -/
theorem not_isSuccess_of_refused (hopen : h.engine = some e) {direction : Direction}
    {length declared : Nat} {err : Error}
    (hrefused : h.refusal direction length declared = some err) :
    ¬err.code.isSuccess = true := by
  rcases code_of_refusal hopen hrefused with ⟨-, hcode⟩ | ⟨-, -, hcode⟩
  · rw [hcode]
    decide
  · rw [hcode]
    decide

/-- A capture frame of numbers that is reported as a success leaves the snapshot of a report. -/
theorem showsReport_processFloat (hreachable : Handle.Reachable (h, s)) (hopen : h.engine = some e)
    (frame : Option (List Binary32)) (channels : Int32) :
    let op : Op := .processFloat .capture frame channels
    (step op (some h, s)).1.isSuccess = true →
      ∃ call h' s', op.request e = some call ∧ (step op (some h, s)).2 = (some h', s') ∧
        library.ShowsReport e.ref call s s' h'.statistics := by
  intro op hsuccess
  cases hrefusal : h.refusal .capture (frame.getD []).length (declaredCount channels) with
  | some err =>
    simp only [op, step, processFloat, Handle.processFloat_of_refused hrefusal] at hsuccess
    exact absurd hsuccess (not_isSuccess_of_refused hopen hrefusal)
  | none =>
    obtain ⟨-, -, hlength⟩ := Handle.open_of_refusal_eq_none hrefusal
    have hcount := NativeEngine.channelCount_of_reachable hreachable hopen .capture
    have hcall := NativeEngine.processFloat_of_fits ((length_split _ _).trans hcount)
      (fun _ => length_of_mem_split hlength) s
    rw [hcount] at hcall
    let format := e.format .capture
    let call : Call ι := .processFloat e.ref .capture
      (split format.channelCount (frame.getD [])) format format
    simp only [op, step, processFloat,
      Handle.processFloat_of_accepted hreachable.hasScratch hopen hrefusal, Handle.passFloat,
      hcount, hcall] at hsuccess ⊢
    exact ⟨call, _, _, rfl, rfl,
      NativeEngine.showsReport_settle _ _ _ e call Prod.fst s hsuccess⟩

/-- So does a capture frame of 16-bit samples. -/
theorem showsReport_processPcm (hreachable : Handle.Reachable (h, s)) (hopen : h.engine = some e)
    (frame : Option (List Int16)) (channels : Int32) :
    let op : Op := .processPcm .capture frame channels
    (step op (some h, s)).1.isSuccess = true →
      ∃ call h' s', op.request e = some call ∧ (step op (some h, s)).2 = (some h', s') ∧
        library.ShowsReport e.ref call s s' h'.statistics := by
  intro op hsuccess
  cases hrefusal : h.refusal .capture (frame.getD []).length (declaredCount channels) with
  | some err =>
    let format := e.format .capture
    let length := Int32.ofNat (frame.getD []).length
    let call : Call ι :=
      .processPcm e.ref .capture (frame.getD []) length format format length
    simp only [op, step, processPcm, Handle.processPcm_of_refused hrefusal] at hsuccess
    exact absurd hsuccess (not_isSuccess_of_refused hopen hrefusal)
  | none =>
    obtain ⟨-, -, hlength⟩ := Handle.open_of_refusal_eq_none hrefusal
    have hcount := NativeEngine.channelCount_of_reachable hreachable hopen .capture
    have hsamples : (frame.getD []).length =
        (e.format .capture).channelCount * samplesPerFrame := by
      rw [← hcount]
      exact hlength
    have hcall := NativeEngine.processPcm_of_fits hsamples s
    let format := e.format .capture
    let length := Int32.ofNat (frame.getD []).length
    let call : Call ι :=
      .processPcm e.ref .capture (frame.getD []) length format format length
    simp only [op, step, processPcm, Handle.processPcm_of_accepted hopen hrefusal, Handle.passPcm,
      hcall] at hsuccess ⊢
    exact ⟨call, _, _, rfl, rfl,
      NativeEngine.showsReport_settle _ _ _ e call Prod.fst s hsuccess⟩

/-- So does every call that captures. -/
theorem showsReport_of_captures (hreachable : Handle.Reachable (h, s)) (hopen : h.engine = some e)
    {op : Op}
    (hcaptures : (frontEnd (NativeEngine library) (Session σ ι)).captures op (some h, s) = true) :
    ∃ call h' s', op.request e = some call ∧ (step op (some h, s)).2 = (some h', s') ∧
      library.ShowsReport e.ref call s s' h'.statistics := by
  obtain ⟨hcapture, hsuccess⟩ := Bool.and_eq_true_iff.mp hcaptures
  cases op with
  | processFloat direction frame channels =>
    cases direction with
    | capture => exact showsReport_processFloat hreachable hopen frame channels hsuccess
    | render => cases hcapture
  | processPcm direction frame channels =>
    cases direction with
    | capture => exact showsReport_processPcm hreachable hopen frame channels hsuccess
    | render => cases hcapture
  | _ => cases hcapture

/-- A program is shown what the library reported after a capture frame that succeeded: it was asked
right after the frame, and if it gave a report, the values whose flags are set are shown. -/
def ShowsFlagged (library : Library σ ι) (op : Op)
    (s : Variable (NativeEngine library) × Session σ ι) (shown : StatisticsRecord) : Prop :=
  ∃ h e call, s.1 = some h ∧ h.engine = some e ∧ op.request e = some call ∧
    let answer := library.call (.statistics e.ref) (library.call call s.2).2
    (step op s).2.2 = answer.2 ∧ (answer.1.1 = Status.ok → answer.1.2.ShownBy shown)

/-- As long as no other frame is captured, a capture frame that succeeded has its report shown. -/
theorem showsFlagged_of_captures {v : Variable (NativeEngine library)}
    (horderly : Orderly (v, s)) (hreachable : ∀ h, v = some h → Handle.Reachable (h, s)) {op : Op}
    (hcaptures : (frontEnd (NativeEngine library) (Session σ ι)).captures op (v, s) = true)
    {later : List Op} (hlater : .destroy ∉ later)
    (hnone : (frontEnd (NativeEngine library) (Session σ ι)).CapturesNone later
      (step op (v, s)).2) :
    ShowsFlagged library op (v, s) (History.after step (op :: later) (v, s)).1.statistics := by
  cases v with
  | none =>
    rw [captures_none] at hcaptures
    cases hcaptures
  | some h =>
    obtain ⟨-, e, hopen⟩ := horderly h rfl
    obtain ⟨call, h', s', hrequest, hstep, hshows⟩ :=
      showsReport_of_captures (hreachable h rfl) hopen hcaptures
    have hkept : (History.after step (op :: later) (some h, s)).1.statistics =
        (step op (some h, s)).2.1.statistics :=
      refreshes.snapshot_after_of_none hlater (horderly.step op _) hnone
    rw [hstep] at hkept
    refine ⟨h, e, call, rfl, hopen, hrequest, ?_, ?_⟩
    · rw [hstep]
      exact hshows.session
    · intro hok
      rw [hkept, statistics, hshows.snapshot hok]
      exact NativeStats.shownBy_flatten _

end Boundary.Variable

open Boundary Native Variable in
/-- Whatever the library writes, a program is shown the values of the latest report whose own flags
are set, and zero in all other places; and no program can tell two libraries apart that differ only
in what stands beside flags that are not set, or in what is not shown. -/
theorem statistics_respectFlags {σ ι : Type} (library : Library σ ι) :
    (∀ (record : ConfigRecord) (place : Option Status) (s₀ : Session σ ι)
      (before : List Op) (op : Op) (later : List Op),
      let f := frontEnd (NativeEngine library) (Session σ ι)
      let made := create (ε := NativeEngine library) record place s₀
      let s := History.after step before (made.1.1, made.2)
      f.captures op s = true → .destroy ∉ later → f.CapturesNone later (step op s).2 →
        ∃ shown, (step .statistics (History.after step (op :: later) s)).1 = .statistics shown ∧
          ShowsFlagged library op s shown) ∧
    ∀ other : Library σ ι, library.ReportsAlike other → ∀ record place ops s₀,
      lifetime (NativeEngine other) record place ops s₀ =
        lifetime (NativeEngine library) record place ops s₀ := by
  constructor
  · intro record place s₀ before op later f made s hcaptures hlater hnone
    have horderly : Orderly s :=
      History.after_invariant step Orderly.step before (orderly_of_create record place s₀)
    have hreachable (h : Handle (NativeEngine library)) (hhandle : s.1 = some h) :
        Handle.Reachable (h, s.2) := (live_after (Prod.ext hhandle rfl)).1
    exact ⟨_, rfl, showsFlagged_of_captures horderly hreachable hcaptures hlater hnone⟩
  · intro other halike record place ops s₀
    exact lifetime_replaced (NativeEngine.replaces_onLibrary halike) record place ops s₀

open Boundary Native Variable in
/-- A delay that is flagged is shown, while other delays and a return loss that are not flagged are
not; and a library that reports the first alone cannot be told from the one that writes them all. -/
theorem statistics_respectFlags_of_reporting :
    let told : NativeStats := { delayMs := ⟨true, 7⟩ }
    let written : NativeStats :=
      { told with
        echoReturnLoss := ⟨false, .nan⟩
        delayMedianMs := ⟨false, 5⟩
        delayDeviationMs := ⟨false, -5⟩
        residualEchoLikelihoodMax := ⟨true, 1⟩ }
    let frame : Option (List Int16) := some (List.replicate samplesPerFrame 0)
    let capture : Variable.Op := .processPcm .capture frame 1
    let later : List Variable.Op := [.processPcm .render frame 1, .setStreamDelayMs 30]
    let wordy := Library.reporting Status.ok written
    let terse := Library.reporting Status.ok told
    ∃ (h : Handle (NativeEngine wordy)) (s : Session Unit Unit),
      create .default none ⟨(), []⟩ = ((some h, none), s) ∧
      (step .statistics (History.after step (capture :: later) (some h, s))).1 =
        .statistics { delayMs := 7 } ∧
      ∀ ops, lifetime (NativeEngine wordy) .default none ops ⟨(), []⟩ =
        lifetime (NativeEngine terse) .default none ops ⟨(), []⟩ := by
  intro told written frame capture later wordy terse
  obtain ⟨h, s, hmade, hcaptures⟩ : ∃ (h : Handle (NativeEngine wordy)) (s : Session Unit Unit),
      create .default none ⟨(), []⟩ = ((some h, none), s) ∧
      (frontEnd _ _).captures capture (some h, s) = true := ⟨_, _, rfl, by decide +kernel⟩
  have hnone (t : Variable (NativeEngine wordy) × Session Unit Unit) :
      (frontEnd _ _).CapturesNone later t := by
    intro before op rest hsplit
    have hop : op ∈ later := hsplit ▸ List.mem_append_right before List.mem_cons_self
    simp only [later, List.mem_cons, List.not_mem_nil, or_false] at hop
    rcases hop with rfl | rfl <;> rfl
  refine ⟨h, s, hmade, ?_, ?_⟩
  · have hflagged :=
      (statistics_respectFlags wordy).1 .default none ⟨(), []⟩ [] capture later
    simp only [hmade, History.after_nil] at hflagged
    obtain ⟨shown, hshown, h', e, call, -, -, -, -, hreport⟩ :=
      hflagged hcaptures (by simp [later]) (hnone _)
    obtain ⟨loss, enhancement, fraction, likelihood, median, deviation, delay⟩ := shown
    obtain ⟨rfl, rfl, rfl, rfl, rfl, rfl, rfl⟩ := hreport rfl
    exact hshown
  · intro ops
    have hsame : told.SameReport written := by
      constructor <;> decide
    have halike := Library.reportsAlike_reporting Status.ok hsame
    exact (statistics_respectFlags terse).2 wordy halike .default none ops ⟨(), []⟩

end VoiceProcessing
