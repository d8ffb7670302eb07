import VoiceProcessing.Proofs.EngineGeometry

/-!
# Which frames are accepted

The channel counts of a handle are fixed at its creation. Whatever has been done to it since, a
frame call is judged by them: first whether the handle is still open, then the declared channel
count, then the length of the frame. A frame that passes is judged by the engine alone, and the
engine does not object to its geometry: the bypass engine succeeds, and the native engine lends the
frame to the library, in one call, with its true geometry, and reports the status that the library
returns.
-/

namespace VoiceProcessing

variable {ε ω : Type} [Engine ε ω]

/-- How a frame call is judged, in this order: by whether the handle has ended, by the declared
channel count, by the length of the frame, and in the end by the engine, of which `verdict` speaks.
-/
structure Judged (ended : Prop) (count length declared : Nat) (result : Except Error Unit)
    (verdict : Prop) : Prop where
  of_ended : ended → result = .error .closed
  of_declared_ne : ¬ended → declared ≠ count → result = .error (.channelMismatch count declared)
  of_length_ne : ¬ended → declared = count → length ≠ 480 * count →
    result = .error (.lengthMismatch (480 * count) length)
  of_fits : ¬ended → declared = count → length = 480 * count → verdict

/-- What the verdict says may be weakened. -/
theorem Judged.imp {ended : Prop} {count length declared : Nat} {result : Except Error Unit}
    {verdict verdict' : Prop} (h : Judged ended count length declared result verdict)
    (himp : verdict → verdict') : Judged ended count length declared result verdict' where
  of_ended := h.of_ended
  of_declared_ne := h.of_declared_ne
  of_length_ne := h.of_length_ne
  of_fits hopen hdeclared hlength := himp (h.of_fits hopen hdeclared hlength)

namespace Handle

omit [Engine ε ω] in
/-- The reasons for a refusal are looked for in the order of judgement. -/
theorem judged_of_refusal {h : Handle ε} {direction : Direction} {ended : Prop} {count : Nat}
    (hended : h.isClosed = true ↔ ended) (hcount : (h.format direction).channelCount = count)
    {length declared : Nat} {result : Except Error Unit} {verdict : Prop}
    (hrefused : ∀ e, h.refusal direction length declared = some e → result = .error e)
    (haccepted : h.refusal direction length declared = none → verdict) :
    Judged ended count length declared result verdict := by
  subst hcount
  have hsamples : (h.format direction).frameSamples = 480 * (h.format direction).channelCount :=
    Nat.mul_comm _ _
  simp only [refusal, hsamples] at hrefused haccepted
  refine ⟨?_, ?_, ?_, ?_⟩
  · intro hend
    exact hrefused _ (if_pos (hended.mpr hend))
  · intro hopen hdeclared
    exact hrefused _ (by rw [if_neg (mt hended.mp hopen), if_pos hdeclared])
  · intro hopen hdeclared hlength
    exact hrefused _ (by
      rw [if_neg (mt hended.mp hopen), if_neg (not_not_intro hdeclared), if_pos hlength])
  · intro hopen hdeclared hlength
    exact haccepted (by
      rw [if_neg (mt hended.mp hopen), if_neg (not_not_intro hdeclared),
        if_neg (not_not_intro hlength)])

omit [Engine ε ω] in
/-- A frame that is refused is judged by the reason for it. -/
theorem judged_of_refused {h : Handle ε} {direction : Direction} {ended : Prop} {count : Nat}
    (hended : h.isClosed = true ↔ ended) (hcount : (h.format direction).channelCount = count)
    {length declared : Nat} {e : Error} (hrefused : h.refusal direction length declared = some e)
    (verdict : Prop) : Judged ended count length declared (.error e) verdict := by
  apply judged_of_refusal hended hcount
  · intro e' hsame
    rw [hrefused] at hsame
    rw [Option.some.inj hsame]
  · intro haccepted
    rw [hrefused] at haccepted
    cases haccepted

omit [Engine ε ω] in
/-- A frame that is accepted is judged by the engine. -/
theorem judged_of_accepted {h : Handle ε} {direction : Direction} {ended : Prop} {count : Nat}
    (hended : h.isClosed = true ↔ ended) (hcount : (h.format direction).channelCount = count)
    {length declared : Nat} (haccepted : h.refusal direction length declared = none)
    (result : Except Error Unit) {verdict : Prop} (hverdict : verdict) :
    Judged ended count length declared result verdict := by
  apply judged_of_refusal hended hcount
  · intro e hrefused
    rw [haccepted] at hrefused
    cases hrefused
  · intro _
    exact hverdict

variable {config : Config} {world₀ world₁ : ω} {h₀ : Handle ε}

/-- What was created stays reachable, with the channel counts of its creation, and is closed exactly
if it has been destroyed. -/
theorem after_create [LawfulEngine ε ω] (hcreate : create config world₀ = (.ok h₀, world₁))
    (ops : List Op) :
    Reachable (History.after step ops (h₀, world₁)) ∧
      ((History.after step ops (h₀, world₁)).1.isClosed = true ↔ .destroy ∈ ops) ∧
      ∀ direction, ((History.after step ops (h₀, world₁)).1.format direction).channelCount =
        config.channelCount direction := by
  have hnew : Reachable (h₀, world₁) :=
    History.Reachable.of_initial step ⟨config, world₀, hcreate⟩
  have hopen : h₀.isClosed = false := by
    obtain ⟨_, _, _, -, rfl, -⟩ := exists_of_create hcreate
    rfl
  refine ⟨hnew.later step ops, ?_, ?_⟩
  · rw [isClosed_after hnew.hasScratch, hopen]
    simp only [Bool.false_eq_true, false_or]
  · intro direction
    rw [format_of_geometry (geometry_after hnew.hasScratch ops)]
    exact channelCount_format_of_create hcreate direction

/-- After any history, a frame of numbers is judged by the channel counts of the creation and then
passed to the engine. -/
theorem judged_processFloat [LawfulEngine ε ω] (hcreate : create config world₀ = (.ok h₀, world₁))
    (ops : List Op) (direction : Direction) (frame : List Binary32) (declared : Nat) :
    let s := History.after step ops (h₀, world₁)
    ∃ result out s', step (.processFloat direction frame declared) s = (.float result out, s') ∧
      Judged (.destroy ∈ ops) (config.channelCount direction) frame.length declared result
        (∃ engine, s.1.engine = some engine ∧ frame.length = (s.1.format direction).frameSamples ∧
          s.1.passFloat direction frame engine s.2 = (result, out, s')) := by
  intro s
  obtain ⟨hreachable, hended, hcount⟩ := after_create hcreate ops
  cases hrefusal : s.1.refusal direction frame.length declared with
  | some e =>
    refine ⟨_, _, _, step_processFloat_of_refused hrefusal s.2, ?_⟩
    exact judged_of_refused hended (hcount direction) hrefusal _
  | none =>
    obtain ⟨⟨engine, hopen⟩, -, hlength⟩ := open_of_refusal_eq_none hrefusal
    refine ⟨_, _, _, step_processFloat_of_accepted hreachable.hasScratch hopen hrefusal s.2, ?_⟩
    exact judged_of_accepted hended (hcount direction) hrefusal _ ⟨engine, hopen, hlength, rfl⟩

/-- After any history, a frame of 16-bit samples is judged by the channel counts of the creation and
then passed to the engine. -/
theorem judged_processPcm [LawfulEngine ε ω] (hcreate : create config world₀ = (.ok h₀, world₁))
    (ops : List Op) (direction : Direction) (frame : List Int16) (declared : Nat) :
    let s := History.after step ops (h₀, world₁)
    ∃ result out s', step (.processPcm direction frame declared) s = (.pcm result out, s') ∧
      Judged (.destroy ∈ ops) (config.channelCount direction) frame.length declared result
        (∃ engine, s.1.engine = some engine ∧ frame.length = (s.1.format direction).frameSamples ∧
          s.1.passPcm direction frame engine s.2 = (result, out, s')) := by
  intro s
  obtain ⟨-, hended, hcount⟩ := after_create hcreate ops
  cases hrefusal : s.1.refusal direction frame.length declared with
  | some e =>
    refine ⟨_, _, _, step_processPcm_of_refused hrefusal s.2, ?_⟩
    exact judged_of_refused hended (hcount direction) hrefusal _
  | none =>
    obtain ⟨⟨engine, hopen⟩, -, hlength⟩ := open_of_refusal_eq_none hrefusal
    refine ⟨_, _, _, step_processPcm_of_accepted hopen hrefusal s.2, ?_⟩
    exact judged_of_accepted hended (hcount direction) hrefusal _ ⟨engine, hopen, hlength, rfl⟩

end Handle

namespace Native

variable {σ ι : Type} {library : Library σ ι}

/-- The library was called once, and then asked for statistics if the call was about a capture frame
and succeeded, but not called otherwise. The status in the answer decides about the frame. -/
structure LentOnce (library : Library σ ι) (direction : Direction) (ref : ι) (call : Call ι)
    (status : call.Answer → Status) (s s' : Session σ ι) (result : Except Error Unit) : Prop where
  log : s'.log = s.log ++ call ::
    if direction = .capture ∧ status (library.answer call s.state).1 = Status.ok then
      [.statistics ref]
    else []
  result : result =
    if status (library.answer call s.state).1 = Status.ok then .ok ()
    else .error (.engine (status (library.answer call s.state).1))

namespace NativeEngine

/-- The statistics are requested after a capture frame whose status is success. -/
theorem log_followUp (direction : Direction) (status : Status) (e : NativeEngine library)
    (s : Session σ ι) :
    (History.after Engine.step (Handle.followUp direction (checkStatus status)) (e, s)).2.log =
      s.log ++ if direction = .capture ∧ status = Status.ok then [.statistics e.ref] else [] := by
  by_cases hstatus : status = Status.ok
  · cases direction with
    | capture =>
      simp only [checkStatus, hstatus, and_self, if_true]
      rfl
    | render =>
      simp only [Handle.followUp, reduceCtorEq, false_and, if_false]
      exact (List.append_nil _).symm
  · have hnone : ¬(direction = .capture ∧ status = Status.ok) := fun h => hstatus h.2
    simp only [checkStatus, if_neg hstatus, if_neg hnone, List.append_nil]
    cases direction <;> rfl

/-- A status becomes an error of the handle unless it is success. -/
theorem mapError_checkStatus (status : Status) :
    (checkStatus status).mapError Error.ofEngine =
      if status = Status.ok then .ok () else .error (.engine status) := by
  by_cases hstatus : status = Status.ok
  · rw [checkStatus, if_pos hstatus, if_pos hstatus]
    rfl
  · rw [checkStatus, if_neg hstatus, if_neg hstatus]
    rfl

/-- What comes of a frame that was lent to the library is up to the status in the answer. -/
theorem lentOnce_settle {F : Type} (direction : Direction) (frame out : F)
    (h : Handle (NativeEngine library)) (e : NativeEngine library) (call : Call ι)
    (status : call.Answer → Status) (s : Session σ ι) :
    let answer := library.call call s
    let settled := h.settle direction frame out (checkStatus (status answer.1)) (e, answer.2)
    LentOnce library direction e.ref call status s settled.2.2.2 settled.1 := by
  intro answer settled
  constructor
  · have hworld : settled.2.2.2 = _ := (Handle.engine_settle direction frame out h _ _).2
    rw [hworld, log_followUp, Library.log_call, List.append_assoc]
    rfl
  · have hresult : settled.1 = _ := Handle.result_settle direction frame out h _ _
    rw [hresult]
    exact mapError_checkStatus _

/-- A frame of numbers that the handle accepts is lent to the library once, in channels. -/
theorem lentOnce_passFloat {s : Handle (NativeEngine library) × Session σ ι}
    (hreachable : Handle.Reachable s) {e : NativeEngine library} (hopen : s.1.engine = some e)
    {direction : Direction} {frame : List Binary32}
    (hlength : frame.length = (s.1.format direction).frameSamples) :
    let format := WireFormat.ofStream (s.1.format direction)
    LentOnce library direction e.ref
      (.processFloat e.ref direction (split (s.1.format direction).channelCount frame) format
        format)
      Prod.fst s.2 (s.1.passFloat direction frame e s.2).2.2.2
      (s.1.passFloat direction frame e s.2).1 := by
  intro format
  have hformat : e.format direction = format := format_of_reachable hreachable hopen direction
  have hcount : (split (s.1.format direction).channelCount frame).length =
      (e.format direction).channelCount := by
    rw [length_split, hformat, WireFormat.channelCount_ofStream]
  have hcall := processFloat_of_fits hcount (fun _ => length_of_mem_split hlength) s.2
  rw [hformat] at hcall
  simp only [Handle.passFloat, hcall]
  exact lentOnce_settle direction frame _ _ e (.processFloat e.ref direction _ format format)
    Prod.fst s.2

/-- A frame of 16-bit samples that the handle accepts is lent to the library once, as it is. -/
theorem lentOnce_passPcm {s : Handle (NativeEngine library) × Session σ ι}
    (hreachable : Handle.Reachable s) {e : NativeEngine library} (hopen : s.1.engine = some e)
    {direction : Direction} {frame : List Int16}
    (hlength : frame.length = (s.1.format direction).frameSamples) :
    let format := WireFormat.ofStream (s.1.format direction)
    let length := Int32.ofNat frame.length
    LentOnce library direction e.ref
      (.processPcm e.ref direction frame length format format length)
      Prod.fst s.2 (s.1.passPcm direction frame e s.2).2.2.2
      (s.1.passPcm direction frame e s.2).1 := by
  intro format length
  have hformat : e.format direction = format := format_of_reachable hreachable hopen direction
  have hsamples : frame.length = (e.format direction).channelCount * samplesPerFrame := by
    rw [hformat, WireFormat.channelCount_ofStream]
    exact hlength
  have hcall := processPcm_of_fits hsamples s.2
  rw [hformat] at hcall
  simp only [Handle.passPcm, hcall]
  exact lentOnce_settle direction frame _ _ e
    (.processPcm e.ref direction frame length format format length) Prod.fst s.2

end NativeEngine

end Native

namespace Bypass

/-- A frame of numbers that the handle accepts succeeds. -/
theorem result_passFloat {s : Handle Bypass × Unit} (hreachable : Handle.Reachable s) {b : Bypass}
    (hopen : s.1.engine = some b) {direction : Direction} {frame : List Binary32}
    (hlength : frame.length = (s.1.format direction).frameSamples) :
    (s.1.passFloat direction frame b s.2).1 = .ok () := by
  have hcount : (split (s.1.format direction).channelCount frame).length =
      (b.format direction).channelCount := by
    rw [length_split, format_of_reachable hreachable hopen]
  rw [Handle.passFloat, Handle.result_settle,
    processFloat_of_fits hcount (fun _ => length_of_mem_split hlength)]
  rfl

/-- A frame of 16-bit samples that the handle accepts succeeds. -/
theorem result_passPcm {s : Handle Bypass × Unit} (hreachable : Handle.Reachable s) {b : Bypass}
    (hopen : s.1.engine = some b) {direction : Direction} {frame : List Int16}
    (hlength : frame.length = (s.1.format direction).frameSamples) :
    (s.1.passPcm direction frame b s.2).1 = .ok () := by
  have hsamples : frame.length = (b.format direction).frameSamples := by
    rw [format_of_reachable hreachable hopen]
    exact hlength
  rw [Handle.passPcm, Handle.result_settle, processPcm_of_fits hsamples]
  rfl

end Bypass

open Native in
/-- Whatever has been done to a handle since its creation, its frame calls are judged by the channel
counts of the creation. A frame that passes succeeds with the bypass engine; with the native engine
it is lent to the library once, with its true geometry, and the library decides. -/
theorem frames_judgedByCreation :
    (∀ (config : Config) (h₀ : Handle Bypass), Handle.create config () = (.ok h₀, ()) →
      ∀ ops direction declared,
        let s := History.after Handle.step ops (h₀, ())
        let count := config.channelCount direction
        (∀ frame, ∃ result out s',
          Handle.step (.processFloat direction frame declared) s = (.float result out, s') ∧
          Judged (.destroy ∈ ops) count frame.length declared result (result = .ok ())) ∧
        (∀ frame, ∃ result out s',
          Handle.step (.processPcm direction frame declared) s = (.pcm result out, s') ∧
          Judged (.destroy ∈ ops) count frame.length declared result (result = .ok ()))) ∧
    (∀ {σ ι : Type} (library : Library σ ι) (config : Config) (s₀ s₁ : Session σ ι)
      (h₀ : Handle (NativeEngine library)), Handle.create config s₀ = (.ok h₀, s₁) →
      ∀ ops direction declared,
        let s := History.after Handle.step ops (h₀, s₁)
        let count := config.channelCount direction
        (∀ frame, ∃ result out s',
          Handle.step (.processFloat direction frame declared) s = (.float result out, s') ∧
          Judged (.destroy ∈ ops) count frame.length declared result
            (∃ e format channels, s.1.engine = some e ∧
              format.sampleRateHz.toInt = 48000 ∧ format.channels.toInt = (count : Int) ∧
              LaidOut count 480 channels frame ∧
              LentOnce library direction e.ref
                (.processFloat e.ref direction channels format format) Prod.fst s.2 s'.2 result)) ∧
        (∀ frame, ∃ result out s',
          Handle.step (.processPcm direction frame declared) s = (.pcm result out, s') ∧
          Judged (.destroy ∈ ops) count frame.length declared result
            (∃ e format length, s.1.engine = some e ∧
              format.sampleRateHz.toInt = 48000 ∧ format.channels.toInt = (count : Int) ∧
              length.toInt = 480 * (count : Int) ∧
              LentOnce library direction e.ref
                (.processPcm e.ref direction frame length format format length) Prod.fst
                s.2 s'.2 result))) := by
  constructor
  · intro config h₀ hcreate ops direction declared s count
    obtain ⟨hreachable, -, -⟩ := Handle.after_create hcreate ops
    constructor
    · intro frame
      obtain ⟨result, out, s', hstep, hjudged⟩ :=
        Handle.judged_processFloat hcreate ops direction frame declared
      refine ⟨result, out, s', hstep, hjudged.imp ?_⟩
      intro hpassed
      obtain ⟨b, hopen, hlength, hpass⟩ := hpassed
      have hresult := Bypass.result_passFloat hreachable hopen hlength
      rw [hpass] at hresult
      exact hresult
    · intro frame
      obtain ⟨result, out, s', hstep, hjudged⟩ :=
        Handle.judged_processPcm hcreate ops direction frame declared
      refine ⟨result, out, s', hstep, hjudged.imp ?_⟩
      intro hpassed
      obtain ⟨b, hopen, hlength, hpass⟩ := hpassed
      have hresult := Bypass.result_passPcm hreachable hopen hlength
      rw [hpass] at hresult
      exact hresult
  · intro σ ι library config s₀ s₁ h₀ hcreate ops direction declared s count
    obtain ⟨hreachable, -, hcounts⟩ := Handle.after_create hcreate ops
    obtain ⟨hrate, hchannels⟩ := WireFormat.toInt_ofStream (s.1.format direction)
    rw [hcounts direction] at hchannels
    constructor
    · intro frame
      obtain ⟨result, out, s', hstep, hjudged⟩ :=
        Handle.judged_processFloat hcreate ops direction frame declared
      refine ⟨result, out, s', hstep, hjudged.imp ?_⟩
      intro hpassed
      obtain ⟨e, hopen, hlength, hpass⟩ := hpassed
      have hlent := NativeEngine.lentOnce_passFloat hreachable hopen hlength
      have hlaid := laidOut_split hlength
      rw [hpass] at hlent
      rw [hcounts direction] at hlent hlaid
      exact ⟨e, _, _, hopen, hrate, hchannels, hlaid, hlent⟩
    · intro frame
      obtain ⟨result, out, s', hstep, hjudged⟩ :=
        Handle.judged_processPcm hcreate ops direction frame declared
      refine ⟨result, out, s', hstep, hjudged.imp ?_⟩
      intro hpassed
      obtain ⟨e, hopen, hlength, hpass⟩ := hpassed
      have hlent := NativeEngine.lentOnce_passPcm hreachable hopen hlength
      rw [hpass] at hlent
      refine ⟨e, _, _, hopen, hrate, hchannels, ?_, hlent⟩
      rw [hlength, toInt_frameSamples, hcounts direction]

open Native in
/-- A stereo handle that was told to use seven channels and reset still takes stereo frames: the
bypass engine succeeds with one, and a library that fails at frames has its status reported. -/
theorem frames_judgedByCreation_of_stereo :
    (∃ h₀ : Handle Bypass, Handle.create { captureChannels := 2 } () = (.ok h₀, ()) ∧
      ∃ out s', Handle.step (.processPcm .capture (List.replicate 960 0) 2)
          (History.after Handle.step [.applyConfig { captureChannels := 7 }, .reset] (h₀, ())) =
        (.pcm (.ok ()) out, s')) ∧
    ∃ (h₀ : Handle (NativeEngine (Library.reversing Status.badDataLength)))
        (s₁ : Session Unit Unit),
      Handle.create { captureChannels := 2 } ⟨(), []⟩ = (.ok h₀, s₁) ∧
      ∃ out s', Handle.step (.processPcm .capture (List.replicate 960 0) 2)
          (History.after Handle.step [.applyConfig { captureChannels := 7 }, .reset] (h₀, s₁)) =
        (.pcm (.error (.engine Status.badDataLength)) out, s') := by
  have hopen : Handle.Op.destroy ∉ [.applyConfig { captureChannels := 7 }, .reset] := by decide
  have hlength : (List.replicate 960 (0 : Int16)).length = 480 * 2 := List.length_replicate
  constructor
  · obtain ⟨h₀, hcreate⟩ : ∃ h₀ : Handle Bypass,
        Handle.create { captureChannels := 2 } () = (.ok h₀, ()) := ⟨_, rfl⟩
    obtain ⟨result, out, s', hstep, hjudged⟩ := (frames_judgedByCreation.1 _ h₀ hcreate
      [.applyConfig { captureChannels := 7 }, .reset] .capture 2).2 (List.replicate 960 0)
    have hresult : result = .ok () := hjudged.of_fits hopen rfl hlength
    subst hresult
    exact ⟨h₀, hcreate, out, s', hstep⟩
  · obtain ⟨h₀, s₁, hcreate⟩ :
        ∃ (h₀ : Handle (NativeEngine (Library.reversing Status.badDataLength)))
          (s₁ : Session Unit Unit),
          Handle.create { captureChannels := 2 } ⟨(), []⟩ = (.ok h₀, s₁) := ⟨_, _, rfl⟩
    obtain ⟨result, out, s', hstep, hjudged⟩ :=
      (frames_judgedByCreation.2 _ _ _ s₁ h₀ hcreate
        [.applyConfig { captureChannels := 7 }, .reset] .capture 2).2 (List.replicate 960 0)
    obtain ⟨e, format, length, -, -, -, -, hlent⟩ := hjudged.of_fits hopen rfl hlength
    have hresult : result = .error (.engine Status.badDataLength) := hlent.result
    subst hresult
    exact ⟨h₀, s₁, hcreate, out, s', hstep⟩

end VoiceProcessing
