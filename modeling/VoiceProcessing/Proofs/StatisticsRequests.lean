import VoiceProcessing.Proofs.NativeCalls
import VoiceProcessing.Proofs.Snapshot

/-!
# When the native library is asked for statistics

A handle asks the library for statistics once after each capture frame that succeeds and never
otherwise. If the library does not answer with success, whatever it wrote is discarded and the
snapshot is all zero, but the frame has been processed all the same. With that, what is known of the
snapshot of any engine is stated for the native one down to the calls of the library.

Nothing is assumed of the library.
-/

namespace VoiceProcessing

namespace Native

variable {σ ι : Type} {library : Library σ ι}

/-- None of the calls asks for statistics. -/
def NoRequest (calls : List (Call ι)) : Prop :=
  ∀ ref, .statistics ref ∉ calls

namespace NativeEngine

/-- An operation that is not about statistics makes no request. -/
theorem log_step_of_ne {op : Engine.Op} (hop : op ≠ .statistics) (e : NativeEngine library)
    (s : Session σ ι) :
    ∃ calls, (Engine.step op (e, s)).2.2.log = s.log ++ calls ∧ NoRequest calls := by
  have hone (call : Call ι) (hcall : ∀ ref, Call.statistics ref ≠ call) :
      ∃ calls, (library.call call s).2.log = s.log ++ calls ∧ NoRequest calls :=
    ⟨[call], rfl, fun ref hmem => hcall ref (List.mem_singleton.mp hmem)⟩
  have hnone : ∃ calls, s.log = s.log ++ calls ∧ NoRequest calls :=
    ⟨[], (List.append_nil _).symm, fun _ => List.not_mem_nil⟩
  cases op with
  | reset => exact hone (.reset e.ref e.capture e.render) (by simp)
  | applyConfig config => exact hone (.applyConfig e.ref _) (by simp)
  | processFloat direction channels =>
    simp only [Engine.step, Engine.processFloat, processFloat]
    cases checkChannels (e.format direction) channels with
    | error err => exact hnone
    | ok _ => exact hone (.processFloat e.ref direction channels _ _) (by simp)
  | processPcm direction samples =>
    simp only [Engine.step, Engine.processPcm, processPcm]
    cases checkSamples (e.format direction) samples with
    | error err => exact hnone
    | ok _ => exact hone (.processPcm e.ref direction samples _ _ _ _) (by simp)
  | statistics => exact absurd rfl hop
  | hint hint =>
    cases hint with
    | delay ms => exact hone (.setDelay e.ref ms) (by simp)
    | analogLevel level => exact hone (.setAnalogLevel e.ref level) (by simp)
    | outputMuted muted => exact hone (.setOutputMuted e.ref muted) (by simp)
    | keyPressed pressed => exact hone (.setKeyPressed e.ref pressed) (by simp)
  | delayMs => exact hone (.delay e.ref) (by simp)
  | recommendedLevel => exact hone (.recommendedLevel e.ref) (by simp)

/-- Nor does a list of such operations. -/
theorem log_after_of_not_mem {ops : List Engine.Op} (hops : .statistics ∉ ops)
    (e : NativeEngine library) (s : Session σ ι) :
    ∃ calls, (History.after Engine.step ops (e, s)).2.log = s.log ++ calls ∧ NoRequest calls := by
  induction ops generalizing s with
  | nil => exact ⟨[], (List.append_nil _).symm, fun _ => List.not_mem_nil⟩
  | cons op ops ih =>
    rw [List.mem_cons, not_or] at hops
    obtain ⟨first, hfirst, hquiet⟩ := log_step_of_ne (Ne.symm hops.1) e s
    obtain ⟨later, hlater, hquietLater⟩ := ih hops.2 (Engine.step op (e, s)).2.2
    have hstep : (Engine.step op (e, s)).2 = (e, (Engine.step op (e, s)).2.2) :=
      Prod.ext (step_uses op e s).1 rfl
    rw [History.after_cons, hstep]
    refine ⟨first ++ later, by rw [hlater, hfirst, List.append_assoc], ?_⟩
    intro ref hmem
    exact (List.mem_append.mp hmem).elim (hquiet ref) (hquietLater ref)

/-- Making an instance makes no request. -/
theorem log_create (library : Library σ ι) (config : Config) (capture render : StreamFormat)
    (s : Session σ ι) :
    ∃ calls, (Engine.create (ε := NativeEngine library) config capture render s).2.log =
      s.log ++ calls ∧ NoRequest calls := by
  cases hanswer : (library.answer (.create (.ofConfig config)) s.state).1 with
  | none =>
    obtain ⟨s', hcreate, hlog⟩ := create_of_none hanswer capture render
    rw [hcreate]
    exact ⟨_, hlog, by simp [NoRequest]⟩
  | some ref =>
    rw [create_of_some hanswer]
    split
    · refine ⟨[.create (.ofConfig config), .reset ref (.ofStream capture) (.ofStream render)],
        List.append_assoc _ _ _, ?_⟩
      simp [NoRequest]
    · refine ⟨[.create (.ofConfig config), .reset ref (.ofStream capture) (.ofStream render),
        .destroy ref], ?_, ?_⟩
      · simp only [Library.log_call, List.append_assoc, List.cons_append, List.nil_append]
      · simp [NoRequest]

end NativeEngine

/-- What a call on a handle requests of the library, and what becomes of the answer. In particular
the statistics are requested only if the frame was processed successfully, and no answer to that
changes this. -/
structure RequestsOnce (library : Library σ ι) (op : Handle.Op)
    (s : Handle (NativeEngine library) × Session σ ι) : Prop where
  of_captures : (Handle.frontEnd (NativeEngine library) (Session σ ι)).captures op s = true →
    ∃ e calls asked, s.1.engine = some e ∧
      asked.log = s.2.log ++ calls ∧ NoRequest calls ∧
      let answer := library.call (.statistics e.ref) asked
      (Handle.step op s).2.2 = answer.2 ∧
      (Handle.step op s).2.1.statistics =
        if answer.1.1 = Status.ok then answer.1.2.toEngineStats.flatten else {}
  of_not_captures : (Handle.frontEnd (NativeEngine library) (Session σ ι)).captures op s = false →
    ∃ calls, (Handle.step op s).2.2.log = s.2.log ++ calls ∧ NoRequest calls

/-- Every call on a handle requests statistics as it should. -/
theorem requestsOnce {h : Handle (NativeEngine library)} (hscratch : h.HasScratch)
    (op : Handle.Op) (s : Session σ ι) : RequestsOnce library op (h, s) := by
  cases hengine : h.engine with
  | none =>
    refine ⟨?_, ?_⟩
    · intro hcaptures
      rw [Handle.captures_of_closed hengine] at hcaptures
      cases hcaptures
    · intro _
      rw [Handle.step_closed hengine]
      exact ⟨[], (List.append_nil _).symm, fun _ => List.not_mem_nil⟩
  | some e =>
    have hcalls := Handle.engineCalls_of_open hscratch hengine op s
    cases Handle.refresh_step hscratch op s with
    | taken call stats hcaptures htwo hcall hreport hstatistics =>
      have hop : op ≠ .destroy := by
        rintro rfl
        cases hcaptures
      refine ⟨fun _ => ?_, fun hnone => absurd (hcaptures.symm.trans hnone) Bool.noConfusion⟩
      -- The session in which the request is made is that after the frame.
      obtain ⟨calls, hlog, hquiet⟩ := NativeEngine.log_step_of_ne hcall e s
      let asked := (Engine.step call (e, s)).2.2
      have hframe : (Engine.step call (e, s)).2 = (e, asked) :=
        Prod.ext (NativeEngine.step_uses call e s).1 rfl
      obtain ⟨-, hworld⟩ := Handle.engine_step hscratch hengine hop s
      rw [← hcalls, htwo, History.after_cons, hframe] at hworld
      have hreported : some (Engine.statistics e asked).1 = some stats := by
        rw [← hreport, FrontEnd.report, if_pos hcaptures]
        change _ = Engine.finalReport h.engine (Handle.engineCalls op (h, s)) s
        rw [hengine, htwo, Engine.finalReport_pair, hframe]
      refine ⟨e, calls, asked, hengine, hlog, hquiet, hworld, ?_⟩
      rw [hstatistics, ← Option.some.inj hreported]
      exact apply_ite EngineStats.flatten _ _ _
    | kept hnone hquiet _ =>
      refine ⟨fun hcaptures => absurd (hcaptures.symm.trans hnone) Bool.noConfusion, fun _ => ?_⟩
      rw [hcalls] at hquiet
      by_cases hop : op = .destroy
      · subst hop
        rw [Handle.step_destroy hengine]
        exact ⟨[.destroy e.ref], rfl, by simp [NoRequest]⟩
      · obtain ⟨-, hworld⟩ := Handle.engine_step hscratch hengine hop s
        rw [hworld]
        exact NativeEngine.log_after_of_not_mem hquiet e s

/-- Creating a handle makes no request. -/
theorem log_create (library : Library σ ι) (config : Config) (s : Session σ ι) :
    ∃ calls, (Handle.create (ε := NativeEngine library) config s).2.log = s.log ++ calls ∧
      NoRequest calls := by
  by_cases hzero : config.captureChannels = 0 ∨ config.renderChannels = 0
  · rw [Handle.create_of_zero hzero]
    exact ⟨[], (List.append_nil _).symm, fun _ => List.not_mem_nil⟩
  · rw [not_or] at hzero
    obtain ⟨made, hmade, hquiet⟩ :=
      NativeEngine.log_create library config ⟨_, hzero.1⟩ ⟨_, hzero.2⟩ s
    rw [Handle.create_of_ne_zero hzero.1 hzero.2]
    rcases hcall : Engine.create (ε := NativeEngine library) config ⟨_, hzero.1⟩ ⟨_, hzero.2⟩ s with
      ⟨result, s'⟩
    rw [hcall] at hmade
    cases result with
    | error e => exact ⟨made, hmade, hquiet⟩
    | ok e =>
      have hforwarded : .statistics ∉ Handle.forwarded config.streamDelay := by
        cases config.streamDelay <;> simp [Handle.forwarded]
      obtain ⟨hints, hhints, hquietHints⟩ := NativeEngine.log_after_of_not_mem hforwarded e s'
      refine ⟨made ++ hints, by rw [hhints, hmade, List.append_assoc], ?_⟩
      intro ref hmem
      exact (List.mem_append.mp hmem).elim (hquiet ref) (hquietHints ref)

/-- A library that reports the given statistics with the given status, and otherwise grants
everything. -/
def Library.reporting (status : Status) (stats : NativeStats) : Library Unit Unit where
  answer
    | .statistics _, s => ((status, stats), s)
    | call, s => (Library.reversing Status.ok).answer call s

end Native

/-- The snapshots of both engines follow the capture frames, and with the native engine the library
is asked for statistics once after each capture frame that succeeds and at no other time. -/
theorem snapshots_followCaptures :
    SnapshotsFollow Bypass Unit ∧
    ∀ {σ ι : Type} (library : Native.Library σ ι),
      SnapshotsFollow (Native.NativeEngine library) (Native.Session σ ι) ∧
      ∀ config s₀, (∃ calls,
          (Handle.create (ε := Native.NativeEngine library) config s₀).2.log = s₀.log ++ calls ∧
            Native.NoRequest calls) ∧
        ∀ h s, Handle.create config s₀ = (.ok h, s) →
          ∀ ops op, Native.RequestsOnce library op (History.after Handle.step ops (h, s)) := by
  refine ⟨snapshotsFollow, fun library => ⟨snapshotsFollow, fun config s₀ => ⟨?_, ?_⟩⟩⟩
  · exact Native.log_create library config s₀
  · intro h s hcreate ops op
    have hall := History.after_invariant Handle.step Handle.Orderly.step ops
      (Handle.orderly_of_create hcreate)
    exact Native.requestsOnce hall.1 op _

open Native in
set_option maxRecDepth 8192 in
/-- What the library reports with success stays in the snapshot over later frames and hints that are
not about a capture frame. What it writes while failing does not get there, although the frame is
processed. -/
theorem snapshots_followCaptures_of_reporting :
    let stats : NativeStats := { delayMs := ⟨true, 7⟩ }
    let frame : List Int16 := List.replicate samplesPerFrame 0
    let capture : Handle.Op := .processPcm .capture frame 1
    let later : List Handle.Op := [.processPcm .render frame 1, .setStreamDelay (.fixed 30)]
    (∃ (h : Handle (NativeEngine (Library.reporting Status.ok stats))) (s : Session Unit Unit),
      Handle.create {} ⟨(), []⟩ = (.ok h, s) ∧
      (History.after Handle.step (capture :: later) (h, s)).1.statistics = { delayMs := 7 }) ∧
    ∃ (h : Handle (NativeEngine (Library.reporting Status.internal stats))) (s : Session Unit Unit),
      Handle.create {} ⟨(), []⟩ = (.ok h, s) ∧
      (Handle.step capture (h, s)).1 = .pcm (.ok ()) frame ∧
      (Handle.step capture (h, s)).2.1.statistics = {} := by
  intro stats frame capture later
  constructor
  · have hmade : ∃ (h : Handle (NativeEngine (Library.reporting Status.ok stats)))
          (s : Session Unit Unit), Handle.create {} ⟨(), []⟩ = (.ok h, s) ∧
        (Handle.frontEnd _ _).captures capture (h, s) = true ∧
        (Handle.frontEnd _ _).report capture (h, s) = some stats.toEngineStats :=
      ⟨_, _, rfl, by decide +kernel, by decide +kernel⟩
    obtain ⟨h, s, hcreate, hcaptures, hreport⟩ := hmade
    have hfollows := (snapshots_followCaptures.2 (Library.reporting Status.ok stats)).1.of_handle
      {} ⟨(), []⟩ h s hcreate
    have hnone (t : Handle (NativeEngine (Library.reporting Status.ok stats)) × Session Unit Unit) :
        (Handle.frontEnd _ _).CapturesNone later t := by
      intro before op rest hsplit
      have hop : op ∈ later := hsplit ▸ List.mem_append_right before List.mem_cons_self
      simp only [later, List.mem_cons, List.not_mem_nil, or_false] at hop
      rcases hop with rfl | rfl <;> rfl
    obtain ⟨reported, hreported, hsnapshot⟩ :=
      hfollows.of_captured [] capture later (by simp [capture, later]) hcaptures (hnone _)
    rw [Option.some.inj (hreported.symm.trans hreport)] at hsnapshot
    exact ⟨h, s, hcreate, hsnapshot⟩
  · have hmade : ∃ (h : Handle (NativeEngine (Library.reporting Status.internal stats)))
          (s : Session Unit Unit), Handle.create {} ⟨(), []⟩ = (.ok h, s) ∧
        (Handle.step capture (h, s)).1 = .pcm (.ok ()) frame := ⟨_, _, rfl, rfl⟩
    obtain ⟨h, s, hcreate, hreply⟩ := hmade
    have hrequests := ((snapshots_followCaptures.2 (Library.reporting Status.internal stats)).2
      {} ⟨(), []⟩).2 h s hcreate [] capture
    obtain ⟨_, _, _, -, -, -, -, hsnapshot⟩ :=
      hrequests.of_captures (congrArg Handle.Reply.isSuccess hreply)
    exact ⟨h, s, hcreate, hreply, hsnapshot⟩

end VoiceProcessing
