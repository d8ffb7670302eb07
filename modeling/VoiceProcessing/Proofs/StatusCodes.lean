import VoiceProcessing.Proofs.Acceptance
import VoiceProcessing.Proofs.FrontEnds

/-!
# Status codes tell the truth

Beyond the boundary the outcome of a call is one number. Zero is reported exactly if there was a
handle, nothing was wrong with the frame, and the library was asked and answered with success. Any
other outcome has a number other than zero: minus one without a handle, minus four for a channel
count, minus six for a length, and otherwise the very status of the library, also if it is positive
or one of these numbers.

The library may answer anything, and any calls may have been made on the handle variable before.
-/

namespace VoiceProcessing

namespace Native

variable {σ ι : Type}

/-- The status in the answer to a call, if the answer has one. -/
def Call.status? : (call : Call ι) → call.Answer → Option Status
  | .reset _ _ _, status | .applyConfig _ _, status | .setDelay _ _, status
  | .setAnalogLevel _ _, status => some status
  | .processFloat _ _ _ _ _, answer => some answer.1
  | .processPcm _ _ _ _ _ _ _, answer => some answer.1
  | .statistics _, answer => some answer.1
  | .create _, _ | .destroy _, _ | .delay _, _ | .recommendedLevel _, _ | .setOutputMuted _ _, _
  | .setKeyPressed _ _, _ => none

/-- From one session on, a call was made before any other, and the library answered it with the
given status. -/
structure Library.AnsweredFirst (library : Library σ ι) (call : Call ι) (given : Status)
    (s s' : Session σ ι) : Prop where
  logged : ∃ later, s'.log = s.log ++ call :: later
  answer : call.status? (library.answer call s.state).1 = some given

/-- The same call is not answered with two statuses. -/
theorem Library.AnsweredFirst.unique {library : Library σ ι} {call : Call ι} {a b : Status}
    {s s' : Session σ ι} (ha : library.AnsweredFirst call a s s')
    (hb : library.AnsweredFirst call b s s') : a = b :=
  Option.some.inj (ha.answer.symm.trans hb.answer)

end Native

namespace Boundary

open Native

/-- The channel count of a record in a direction. -/
def ConfigRecord.channels (r : ConfigRecord) : Direction → Int32
  | .capture => r.captureChannels
  | .render => r.renderChannels

/-- A number of channels that a stream can have. -/
def IsStreamCount (n : Int32) : Prop :=
  1 ≤ n.toInt ∧ n.toInt ≤ 65535

/-- A number of channels survives on its way to a configuration if a stream can have it, and
otherwise becomes zero. -/
theorem toNat_channelsOfInt (n : Int32) :
    (IsStreamCount n ∧ ((channelsOfInt n).toNat : Int) = n.toInt) ∨
      (¬IsStreamCount n ∧ channelsOfInt n = 0) := by
  unfold IsStreamCount channelsOfInt
  simp only [Int32.le_iff_toInt_le, Int32.toInt_zero]
  have hlimit : (65535 : Int32).toInt = 65535 := rfl
  have hsize : UInt16.size = 65536 := rfl
  have hnat : n.toNatClampNeg = n.toInt.toNat := rfl
  rw [hlimit]
  by_cases hrange : 0 ≤ n.toInt ∧ n.toInt ≤ 65535
  · have hvalue : (UInt16.ofNat n.toNatClampNeg).toNat = n.toInt.toNat := by
      rw [hnat]
      exact UInt16.toNat_ofNat_of_lt' (by omega)
    rw [if_pos hrange]
    by_cases hzero : n.toInt = 0
    · right
      constructor
      · omega
      · apply UInt16.toNat_inj.mp
        rw [hvalue, hzero]
        rfl
    · left
      omega
  · rw [if_neg hrange]
    right
    constructor
    · omega
    · rfl

/-- Only a number that a stream can have becomes a channel count. -/
theorem channelsOfInt_ne_zero_iff (n : Int32) : channelsOfInt n ≠ 0 ↔ IsStreamCount n := by
  rcases toNat_channelsOfInt n with ⟨hcount, hvalue⟩ | ⟨hcount, hzero⟩
  · apply iff_of_true _ hcount
    intro hzero
    have hpositive := hcount.1
    rw [← hvalue, hzero] at hpositive
    exact absurd hpositive (by decide)
  · exact iff_of_false (fun hne => hne hzero) hcount

/-- The channel count of a configuration is the number that the record asks for. -/
theorem channelCount_toConfig {record : ConfigRecord} {direction : Direction}
    (hcount : IsStreamCount (record.channels direction)) :
    (record.toConfig.channelCount direction : Int) = (record.channels direction).toInt := by
  rcases toNat_channelsOfInt (record.channels direction) with ⟨-, hvalue⟩ | ⟨hnone, -⟩
  · cases direction <;> exact hvalue
  · exact absurd hcount hnone

/-- The stream format that a record asks for in a direction, as the library is to be told. -/
def ConfigRecord.format (r : ConfigRecord) (direction : Direction) : WireFormat :=
  ⟨48000, r.channels direction⟩

/-- The library is told the stream format that the record asks for. -/
theorem ofStream_eq_format {record : ConfigRecord} {direction : Direction}
    (hcount : IsStreamCount (record.channels direction)) {stream : StreamFormat}
    (hstream : stream.channelCount = record.toConfig.channelCount direction) :
    WireFormat.ofStream stream = record.format direction := by
  obtain ⟨hrate, hchannels⟩ := WireFormat.toInt_ofStream stream
  rw [hstream, channelCount_toConfig hcount, Int32.toInt_inj] at hchannels
  rw [ConfigRecord.format, ← hchannels]
  rfl

/-- What a program declares is the channel count of a stream exactly if it is the number that the
stream was asked for. -/
theorem declaredCount_eq_iff {record : ConfigRecord} {direction : Direction}
    (hcount : IsStreamCount (record.channels direction)) (channels : Int32) :
    declaredCount channels = record.toConfig.channelCount direction ↔
      channels = record.channels direction := by
  have hvalue := channelCount_toConfig hcount
  have hnat : channels.toNatClampNeg = channels.toInt.toNat := rfl
  obtain ⟨hlow, hhigh⟩ := hcount
  simp only [← Int32.toInt_inj, declaredCount, Int32.le_iff_toInt_le, Int32.toInt_zero, hnat,
    wordLimit]
  split <;> omega

namespace Variable

variable {σ ι : Type} {library : Library σ ι}

/-- The request to the library that a call comes down to, given the engine, if the call reports a
status. -/
def Op.request (e : NativeEngine library) : Op → Option (Call ι)
  | .reset => some (.reset e.ref e.capture e.render)
  | .applyConfig record => some (.applyConfig e.ref (.ofConfig record.toConfig))
  | .processFloat direction frame _ =>
    let format := e.format direction
    some (.processFloat e.ref direction (split format.channelCount (frame.getD [])) format format)
  | .processPcm direction frame _ =>
    let format := e.format direction
    let length := Int32.ofNat (frame.getD []).length
    some (.processPcm e.ref direction (frame.getD []) length format format length)
  | .destroy | .statistics | .setStreamDelayMs _ | .setAnalogLevel _ | .setOutputMuted _
  | .setKeyPressed _ | .streamDelayMs | .recommendedLevel => none

/-- Whether a frame is declared to have another number of channels than the record asks for. -/
def Op.Mismatches (record : ConfigRecord) : Op → Prop
  | .processFloat direction _ channels | .processPcm direction _ channels =>
    channels ≠ record.channels direction
  | _ => False

/-- Whether a frame has another length than one with the channels that the record asks for. -/
def Op.Misfits (record : ConfigRecord) : Op → Prop
  | .processFloat direction frame _ =>
    ((frame.getD []).length : Int) ≠ 480 * (record.channels direction).toInt
  | .processPcm direction frame _ =>
    ((frame.getD []).length : Int) ≠ 480 * (record.channels direction).toInt
  | _ => False

/-- The status in a reply, if it has one. -/
def Reply.status? : Reply → Option Status
  | .status given | .float given _ | .pcm given _ => some given
  | .done | .statistics _ | .reading _ => none

/-- What the status of a call tells about it, for a variable that was created from the given record.
The library has been asked if nothing was in the way, and its status is reported. -/
structure TellsTruth (record : ConfigRecord) (op : Op)
    (s : Variable (NativeEngine library) × Session σ ι) (given : Status) (s' : Session σ ι) :
    Prop where
  of_null : s.1 = none → given = -1
  of_mismatch : s.1 ≠ none → op.Mismatches record → given = -4
  of_length : s.1 ≠ none → ¬op.Mismatches record → op.Misfits record → given = -6
  of_answer : s.1 ≠ none → ¬op.Mismatches record → ¬op.Misfits record →
    ∃ h e call, s.1 = some h ∧ h.engine = some e ∧ op.request e = some call ∧
      library.AnsweredFirst call given s.2 s'
  success_iff : given = 0 ↔ ¬op.Mismatches record ∧ ¬op.Misfits record ∧
    ∃ h e call, s.1 = some h ∧ h.engine = some e ∧ op.request e = some call ∧
      library.AnsweredFirst call 0 s.2 s'

/-- Without a handle minus one tells the truth. -/
theorem tellsTruth_none (record : ConfigRecord) (op : Op) (s s' : Session σ ι) :
    TellsTruth record op ((none : Variable (NativeEngine library)), s) (-1) s' where
  of_null _ := rfl
  of_mismatch h := absurd rfl h
  of_length h := absurd rfl h
  of_answer h := absurd rfl h
  success_iff := by
    constructor
    · intro hzero
      exact absurd hzero (by decide)
    · rintro ⟨-, -, h, -, -, hnone, -⟩
      cases hnone

/-- With a handle it is enough to give the right status in each of three cases. -/
theorem tellsTruth_some {record : ConfigRecord} {op : Op} {h : Handle (NativeEngine library)}
    {e : NativeEngine library} (hopen : h.engine = some e) {call : Call ι}
    (hrequest : op.request e = some call) {s s' : Session σ ι} {given : Status}
    (hmismatch : op.Mismatches record → given = -4)
    (hlength : ¬op.Mismatches record → op.Misfits record → given = -6)
    (hanswer : ¬op.Mismatches record → ¬op.Misfits record →
      library.AnsweredFirst call given s s') :
    TellsTruth record op (some h, s) given s' where
  of_null hnone := by cases hnone
  of_mismatch _ := hmismatch
  of_length _ := hlength
  of_answer _ hmatches hfits := ⟨h, e, call, rfl, hopen, hrequest, hanswer hmatches hfits⟩
  success_iff := by
    constructor
    · rintro rfl
      have hmatches : ¬op.Mismatches record := fun h => absurd (hmismatch h) (by decide)
      have hfits : ¬op.Misfits record := fun h => absurd (hlength hmatches h) (by decide)
      exact ⟨hmatches, hfits, h, e, call, rfl, hopen, hrequest, hanswer hmatches hfits⟩
    · rintro ⟨hmatches, hfits, _, e', call', ⟨⟩, hopen', hrequest', hzero⟩
      obtain rfl : e = e' := Option.some.inj (hopen.symm.trans hopen')
      obtain rfl : call = call' := Option.some.inj (hrequest.symm.trans hrequest')
      exact (hanswer hmatches hfits).unique hzero

/-- A call reports a status, and the status tells the truth. -/
def Reports (record : ConfigRecord) (op : Op) (s : Variable (NativeEngine library) × Session σ ι) :
    Prop :=
  ∃ given, (step op s).1.status? = some given ∧ TellsTruth record op s given (step op s).2.2

/-- A handle that a program has got from a record and still refers to is open, and its streams have
the channel counts of the record. -/
theorem live_after {ε ω : Type} [Engine ε ω] [LawfulEngine ε ω] {record : ConfigRecord}
    {place : Option Status} {world₀ : ω} {ops : List Op} {h : Handle ε} {world : ω}
    (hlive :
      let made := create (ε := ε) record place world₀
      History.after step ops (made.1.1, made.2) = (some h, world)) :
    Handle.Reachable (h, world) ∧ (∃ engine, h.engine = some engine) ∧
      ∀ direction, IsStreamCount (record.channels direction) ∧
        (h.format direction).channelCount = record.toConfig.channelCount direction := by
  rcases hcreate : Handle.create (ε := ε) record.toConfig world₀ with ⟨result, world'⟩
  simp only [create, hcreate] at hlive
  cases result with
  | error e =>
    rw [after_none] at hlive
    cases hlive
  | ok h₀ =>
    obtain ⟨hcapture, hrender, -⟩ := Handle.exists_of_create hcreate
    obtain ⟨hreachable, -, hcounts⟩ := Handle.after_create hcreate (ops.flatMap Op.onHandle)
    obtain ⟨-, hshows⟩ := History.after_related Shows.step ops (Shows.of_create hcreate)
    -- The variable refers to the handle that the translated calls lead to, unless that is closed.
    rw [hlive, Prod.mk.injEq] at hshows
    obtain ⟨hhandle, rfl⟩ := hshows
    split at hhandle
    · cases hhandle
    · next hopen =>
      cases hhandle
      refine ⟨hreachable, Handle.exists_engine (Bool.eq_false_iff.mpr hopen), ?_⟩
      intro direction
      refine ⟨?_, hcounts direction⟩
      cases direction with
      | capture => exact (channelsOfInt_ne_zero_iff record.captureChannels).mp hcapture
      | render => exact (channelsOfInt_ne_zero_iff record.renderChannels).mp hrender

/-- A status of the library that was checked and passed on comes back. -/
theorem statusOf_ite (given : Status) :
    statusOf (if given = Status.ok then .ok () else .error (.engine given)) = given := by
  split
  · next hok => exact hok.symm
  · rfl

/-- A frame that was lent to the library has its status reported. -/
theorem answeredFirst_of_lentOnce {direction : Direction} {ref : ι} {call : Call ι}
    {status : call.Answer → Status} {s s' : Session σ ι} {result : Except Error Unit}
    (hlent : LentOnce library direction ref call status s s' result)
    (hstatus : ∀ answer, call.status? answer = some (status answer)) :
    library.AnsweredFirst call (statusOf result) s s' := by
  constructor
  · exact ⟨_, hlent.log⟩
  · rw [hlent.result, statusOf_ite, hstatus]

/-- A frame is refused by an open handle for its declared channel count or else for its length. -/
theorem code_of_refusal {ε : Type} {h : Handle ε} {engine : ε} (hopen : h.engine = some engine)
    {direction : Direction} {length declared : Nat} {e : Error}
    (hrefused : h.refusal direction length declared = some e) :
    (declared ≠ (h.format direction).channelCount ∧ e.code = -4) ∨
      (declared = (h.format direction).channelCount ∧
        length ≠ (h.format direction).frameSamples ∧ e.code = -6) := by
  rw [Handle.refusal, Handle.isClosed_of_open hopen, if_neg Bool.false_ne_true] at hrefused
  split at hrefused
  · next hdeclared =>
    cases hrefused
    exact .inl ⟨hdeclared, rfl⟩
  · next hdeclared =>
    split at hrefused
    · next hlength =>
      cases hrefused
      exact .inr ⟨by omega, hlength, rfl⟩
    · cases hrefused

section Frames

variable {record : ConfigRecord} {op : Op} {h : Handle (NativeEngine library)}
  {e : NativeEngine library} {direction : Direction} {length declared : Nat} {s s' : Session σ ι}

/-- The code of the reason for which a frame is refused tells the truth. -/
theorem tellsTruth_refused (hopen : h.engine = some e) {call : Call ι}
    (hrequest : op.request e = some call)
    (hmismatch : op.Mismatches record ↔ declared ≠ (h.format direction).channelCount)
    (hmisfit : op.Misfits record ↔ length ≠ (h.format direction).frameSamples) {err : Error}
    (hrefused : h.refusal direction length declared = some err) :
    TellsTruth record op (some h, s) err.code s' := by
  rcases code_of_refusal hopen hrefused with ⟨hdeclared, hcode⟩ | ⟨hdeclared, hlength, hcode⟩
  · apply tellsTruth_some hopen hrequest
    · intro _
      exact hcode
    · intro hmatches
      exact absurd (hmismatch.mpr hdeclared) hmatches
    · intro hmatches
      exact absurd (hmismatch.mpr hdeclared) hmatches
  · apply tellsTruth_some hopen hrequest
    · intro hwrong
      exact absurd hdeclared (hmismatch.mp hwrong)
    · intro _ _
      exact hcode
    · intro _ hfits
      exact absurd (hmisfit.mpr hlength) hfits

/-- The status of the library for a frame that is not refused tells the truth. -/
theorem tellsTruth_accepted (hopen : h.engine = some e) {call : Call ι}
    (hrequest : op.request e = some call)
    (hmismatch : op.Mismatches record ↔ declared ≠ (h.format direction).channelCount)
    (hmisfit : op.Misfits record ↔ length ≠ (h.format direction).frameSamples)
    (haccepted : h.refusal direction length declared = none) {given : Status}
    (hanswered : library.AnsweredFirst call given s s') :
    TellsTruth record op (some h, s) given s' := by
  obtain ⟨-, hdeclared, hlength⟩ := Handle.open_of_refusal_eq_none haccepted
  apply tellsTruth_some hopen hrequest
  · intro hwrong
    exact absurd hdeclared (hmismatch.mp hwrong)
  · intro _ hwrong
    exact absurd hlength (hmisfit.mp hwrong)
  · intro _ _
    exact hanswered

/-- A frame has its status reported, if a refusal is reported by its code and anything else by the
status of the library. -/
theorem reports_frame (hopen : h.engine = some e) {call : Call ι}
    (hrequest : op.request e = some call)
    (hmismatch : op.Mismatches record ↔ declared ≠ (h.format direction).channelCount)
    (hmisfit : op.Misfits record ↔ length ≠ (h.format direction).frameSamples)
    (hrefused : ∀ err, h.refusal direction length declared = some err →
      (step op (some h, s)).1.status? = some err.code)
    (haccepted : h.refusal direction length declared = none →
      ∃ given, (step op (some h, s)).1.status? = some given ∧
        library.AnsweredFirst call given s (step op (some h, s)).2.2) :
    Reports record op (some h, s) := by
  cases hrefusal : h.refusal direction length declared with
  | some err =>
    exact ⟨err.code, hrefused err hrefusal,
      tellsTruth_refused hopen hrequest hmismatch hmisfit hrefusal⟩
  | none =>
    obtain ⟨given, hgiven, hanswered⟩ := haccepted hrefusal
    exact ⟨given, hgiven,
      tellsTruth_accepted hopen hrequest hmismatch hmisfit hrefusal hanswered⟩

end Frames

section Live

variable {record : ConfigRecord} {h : Handle (NativeEngine library)} {s : Session σ ι}
  {e : NativeEngine library}

/-- Another declared number is another channel count. -/
theorem mismatch_iff {direction : Direction}
    (hcount : IsStreamCount (record.channels direction))
    (hformat : (h.format direction).channelCount = record.toConfig.channelCount direction)
    (channels : Int32) :
    channels ≠ record.channels direction ↔
      declaredCount channels ≠ (h.format direction).channelCount := by
  rw [hformat, ne_eq, ne_eq, declaredCount_eq_iff hcount]

/-- The length of a frame is 480 times the number of channels that was asked for. -/
theorem misfit_iff {direction : Direction}
    (hcount : IsStreamCount (record.channels direction))
    (hformat : (h.format direction).channelCount = record.toConfig.channelCount direction)
    (length : Nat) :
    (length : Int) ≠ 480 * (record.channels direction).toInt ↔
      length ≠ (h.format direction).frameSamples := by
  have hvalue := channelCount_toConfig hcount
  have hsamples : (h.format direction).frameSamples =
      record.toConfig.channelCount direction * 480 := by rw [← hformat]; rfl
  omega

/-- Resetting the engine reports the status of the library. -/
theorem reports_reset (hopen : h.engine = some e) : Reports record .reset (some h, s) := by
  let call : Call ι := .reset e.ref e.capture e.render
  have hgiven : (step .reset (some h, s)).1.status? = some (library.call call s).1 := by
    simp only [step, reset, Handle.reset, hopen, Engine.reset, Reply.status?]
    rw [NativeEngine.mapError_checkStatus, statusOf_ite]
  refine ⟨_, hgiven, tellsTruth_some hopen rfl False.elim (fun _ => False.elim) fun _ _ => ?_⟩
  constructor
  · refine ⟨[], ?_⟩
    simp only [step, reset, Handle.reset, hopen]
    rfl
  · rfl

/-- Replacing the configuration reports the status of the library. -/
theorem reports_applyConfig (hopen : h.engine = some e) (config : ConfigRecord) :
    Reports record (.applyConfig config) (some h, s) := by
  let call : Call ι := .applyConfig e.ref (.ofConfig config.toConfig)
  rcases hcall : library.call call s with ⟨status, s'⟩
  have hlog : s'.log = s.log ++ [call] := congrArg (fun answer => answer.2.log) hcall.symm
  have hanswer : call.status? (library.answer call s.state).1 = some status :=
    congrArg (fun answer => call.status? answer.1) hcall
  have hstep : (step (.applyConfig config) (some h, s)).1.status? = some status ∧
      ∃ later, (step (.applyConfig config) (some h, s)).2.2.log = s'.log ++ later := by
    simp only [step, applyConfig, Handle.applyConfig, hopen, Engine.applyConfig, call, hcall,
      checkStatus]
    by_cases hok : status = Status.ok
    · simp only [if_pos hok]
      exact ⟨congrArg some hok.symm, [.setDelay e.ref config.toConfig.streamDelay.hintMs], rfl⟩
    · simp only [if_neg hok]
      exact ⟨rfl, [], (List.append_nil _).symm⟩
  obtain ⟨hgiven, later, hlater⟩ := hstep
  refine ⟨status, hgiven, tellsTruth_some hopen rfl False.elim (fun _ => False.elim)
    fun _ _ => ⟨⟨later, ?_⟩, hanswer⟩⟩
  rw [hlater, hlog, List.append_assoc]
  rfl

/-- A frame of numbers has its status reported. -/
theorem reports_processFloat (hreachable : Handle.Reachable (h, s)) (hopen : h.engine = some e)
    {direction : Direction} (hcount : IsStreamCount (record.channels direction))
    (hformat : (h.format direction).channelCount = record.toConfig.channelCount direction)
    (frame : Option (List Binary32)) (channels : Int32) :
    Reports record (.processFloat direction frame channels) (some h, s) := by
  refine reports_frame hopen rfl (mismatch_iff hcount hformat channels)
    (misfit_iff hcount hformat (frame.getD []).length) ?_ ?_
  · intro err hrefused
    simp only [step, processFloat, Handle.processFloat_of_refused hrefused]
    rfl
  · intro haccepted
    obtain ⟨-, -, hlength⟩ := Handle.open_of_refusal_eq_none haccepted
    have hlent := NativeEngine.lentOnce_passFloat hreachable hopen hlength
    simp only [step, processFloat,
      Handle.processFloat_of_accepted hreachable.hasScratch hopen haccepted,
      NativeEngine.format_of_reachable hreachable hopen, WireFormat.channelCount_ofStream]
    exact ⟨_, rfl, answeredFirst_of_lentOnce hlent fun _ => rfl⟩

/-- A frame of 16-bit samples has its status reported. -/
theorem reports_processPcm (hreachable : Handle.Reachable (h, s)) (hopen : h.engine = some e)
    {direction : Direction} (hcount : IsStreamCount (record.channels direction))
    (hformat : (h.format direction).channelCount = record.toConfig.channelCount direction)
    (frame : Option (List Int16)) (channels : Int32) :
    Reports record (.processPcm direction frame channels) (some h, s) := by
  refine reports_frame hopen rfl (mismatch_iff hcount hformat channels)
    (misfit_iff hcount hformat (frame.getD []).length) ?_ ?_
  · intro err hrefused
    simp only [step, processPcm, Handle.processPcm_of_refused hrefused]
    rfl
  · intro haccepted
    obtain ⟨-, -, hlength⟩ := Handle.open_of_refusal_eq_none haccepted
    have hlent := NativeEngine.lentOnce_passPcm hreachable hopen hlength
    simp only [step, processPcm, Handle.processPcm_of_accepted hopen haccepted,
      NativeEngine.format_of_reachable hreachable hopen]
    exact ⟨_, rfl, answeredFirst_of_lentOnce hlent fun _ => rfl⟩

end Live

/-- What the status that creation stores tells about it. Unless a channel count is one that no
stream can have, the library has been asked for an instance and, if it granted one, to initialise
it, and its refusal is reported. -/
structure CreationTells (library : Library σ ι) (record : ConfigRecord) (s₀ : Session σ ι)
    (code : Status) (v : Variable (NativeEngine library)) (s : Session σ ι) : Prop where
  success_iff : code = 0 ↔ v ≠ none
  of_channels : ¬(∀ direction, IsStreamCount (record.channels direction)) → code = -4
  of_refused : (∀ direction, IsStreamCount (record.channels direction)) →
    (library.answer (.create (.ofConfig record.toConfig)) s₀.state).1 = none → code = -2
  of_granted (ref : ι) : (∀ direction, IsStreamCount (record.channels direction)) →
    (library.answer (.create (.ofConfig record.toConfig)) s₀.state).1 = some ref →
    library.AnsweredFirst (.reset ref (record.format .capture) (record.format .render)) code
      (library.call (.create (.ofConfig record.toConfig)) s₀).2 s

/-- A handle is created with both channel counts, unless one is a number that no stream can have. -/
theorem channels_ne_zero_iff (record : ConfigRecord) :
    (record.toConfig.captureChannels ≠ 0 ∧ record.toConfig.renderChannels ≠ 0) ↔
      ∀ direction, IsStreamCount (record.channels direction) := by
  have hcapture := channelsOfInt_ne_zero_iff record.captureChannels
  have hrender := channelsOfInt_ne_zero_iff record.renderChannels
  constructor
  · intro hne direction
    cases direction with
    | capture => exact hcapture.mp hne.1
    | render => exact hrender.mp hne.2
  · intro hcounts
    exact ⟨hcapture.mpr (hcounts .capture), hrender.mpr (hcounts .render)⟩

/-- If no handle can be created, the variable refers to nothing and the code of the error is
stored. -/
theorem create_of_error {ε ω : Type} [Engine ε ω] {record : ConfigRecord} {world world' : ω}
    {e : Error} (hcreate : Handle.create (ε := ε) record.toConfig world = (.error e, world'))
    (place : Option Status) :
    create (ε := ε) record place world = ((none, place.map fun _ => e.code), world') := by
  simp only [create, hcreate]

/-- Otherwise the variable refers to the handle and success is stored. -/
theorem create_of_ok {ε ω : Type} [Engine ε ω] {record : ConfigRecord} {world world' : ω}
    {h : Handle ε} (hcreate : Handle.create record.toConfig world = (.ok h, world'))
    (place : Option Status) :
    create record place world = ((some h, place.map fun _ => Status.ok), world') := by
  simp only [create, hcreate]

/-- Creation makes a variable and stores a status that tells the truth about it, in the place that
the program gives for it, if any. -/
def CreatesTruly (library : Library σ ι) (record : ConfigRecord) (s₀ : Session σ ι) : Prop :=
  ∃ code v s, (∀ place, create record place s₀ = ((v, place.map fun _ => code), s)) ∧
    CreationTells library record s₀ code v s

/-- A channel count that no stream can have is reported, and the library has not been asked. -/
theorem createsTruly_of_channels {record : ConfigRecord}
    (hwrong : ¬∀ direction, IsStreamCount (record.channels direction)) (s₀ : Session σ ι) :
    CreatesTruly library record s₀ := by
  have hzero : record.toConfig.captureChannels = 0 ∨ record.toConfig.renderChannels = 0 := by
    rw [← channels_ne_zero_iff, Decidable.not_and_iff_not_or_not] at hwrong
    exact hwrong.imp Decidable.not_not.mp Decidable.not_not.mp
  have hcreate := Handle.create_of_zero (ε := NativeEngine library) hzero s₀
  refine ⟨_, _, _, create_of_error hcreate, ?_⟩
  constructor
  · exact iff_of_false (by decide : Status.badChannelCount ≠ 0) (not_not_intro rfl)
  · intro _
    rfl
  · intro hcounts
    exact absurd hcounts hwrong
  · intro _ hcounts
    exact absurd hcounts hwrong

section Counts

variable {record : ConfigRecord} (hcounts : ∀ direction, IsStreamCount (record.channels direction))
include hcounts

/-- The library's refusal to grant an instance is reported. -/
theorem createsTruly_of_refused {s₀ : Session σ ι}
    (hrefused : (library.answer (.create (.ofConfig record.toConfig)) s₀.state).1 = none) :
    CreatesTruly library record s₀ := by
  obtain ⟨hcapture, hrender⟩ := (channels_ne_zero_iff record).mpr hcounts
  have hcreate := Handle.create_of_ne_zero (ε := NativeEngine library) hcapture hrender s₀
  obtain ⟨s, hmade, -⟩ := NativeEngine.create_of_none hrefused ⟨_, hcapture⟩ ⟨_, hrender⟩
  rw [hmade] at hcreate
  refine ⟨_, _, _, create_of_error hcreate, ?_⟩
  constructor
  · exact iff_of_false (by decide : Status.internal ≠ 0) (not_not_intro rfl)
  · intro hwrong
    exact absurd hcounts hwrong
  · intro _ _
    rfl
  · intro ref _ hgranted
    rw [hrefused] at hgranted
    cases hgranted

/-- The formats that a granted instance is initialised for are those of the record. -/
theorem ofStream_toConfig (hcapture : record.toConfig.captureChannels ≠ 0)
    (hrender : record.toConfig.renderChannels ≠ 0) :
    WireFormat.ofStream ⟨_, hcapture⟩ = record.format .capture ∧
      WireFormat.ofStream ⟨_, hrender⟩ = record.format .render :=
  ⟨ofStream_eq_format (hcounts .capture) rfl, ofStream_eq_format (hcounts .render) rfl⟩

/-- If the library grants an instance, the status with which it initialises it is reported. -/
theorem createsTruly_of_granted {s₀ : Session σ ι} {ref : ι}
    (hgranted : (library.answer (.create (.ofConfig record.toConfig)) s₀.state).1 = some ref) :
    CreatesTruly library record s₀ := by
  obtain ⟨hcapture, hrender⟩ := (channels_ne_zero_iff record).mpr hcounts
  obtain ⟨hcaptureFormat, hrenderFormat⟩ := ofStream_toConfig hcounts hcapture hrender
  have hcreate := Handle.create_of_ne_zero (ε := NativeEngine library) hcapture hrender s₀
  rw [NativeEngine.create_of_some hgranted] at hcreate
  let reset : Call ι := .reset ref (.ofStream ⟨_, hcapture⟩) (.ofStream ⟨_, hrender⟩)
  let asked := (library.call (.create (.ofConfig record.toConfig)) s₀).2
  rcases hcall : library.call reset asked with ⟨status, s₁⟩
  have hanswer : reset.status? (library.answer reset asked.state).1 = some status :=
    congrArg (fun answer => reset.status? answer.1) hcall
  have hlog : s₁.log = asked.log ++ [reset] := congrArg (fun answer => answer.2.log) hcall.symm
  simp only [reset, asked] at hcall
  rw [hcall] at hcreate
  -- The same status is reported in the end, whatever else is asked of the library until then.
  have htells {v : Variable (NativeEngine library)} {s : Session σ ι}
      (hsuccess : status = 0 ↔ v ≠ none) (hmore : ∃ more, s.log = s₁.log ++ more) :
      CreationTells library record s₀ status v s := by
    refine ⟨hsuccess, fun hwrong => absurd hcounts hwrong, ?_, ?_⟩
    · intro _ hrefused
      rw [hgranted] at hrefused
      cases hrefused
    · intro ref' _ hgranted'
      obtain rfl : ref = ref' := Option.some.inj (hgranted.symm.trans hgranted')
      obtain ⟨more, hmore⟩ := hmore
      rw [← hcaptureFormat, ← hrenderFormat]
      refine ⟨⟨more, ?_⟩, hanswer⟩
      rw [hmore, hlog, List.append_assoc]
      rfl
  by_cases hok : status = Status.ok
  · simp only [if_pos hok] at hcreate
    obtain ⟨-, uses, huses, -⟩ := NativeEngine.after_uses
      (Handle.forwarded record.toConfig.streamDelay) (⟨ref, _, _⟩ : NativeEngine library) s₁
    have hmade := create_of_ok hcreate
    rw [← hok] at hmade
    exact ⟨_, _, _, hmade, htells (iff_of_true hok (Option.some_ne_none _)) ⟨uses, huses⟩⟩
  · simp only [if_neg hok] at hcreate
    exact ⟨_, _, _, create_of_error hcreate,
      htells (iff_of_false hok (not_not_intro rfl)) ⟨[.destroy ref], rfl⟩⟩

end Counts

end Variable

end Boundary

open Boundary Native in
/-- Whatever the native library answers, the status that creation stores tells the truth about it,
and so does, after any list of calls on the variable, the status of every call that has one. -/
theorem statusCodes_tellTruth {σ ι : Type} (library : Library σ ι) (record : ConfigRecord)
    (s₀ : Session σ ι) :
    Variable.CreatesTruly library record s₀ ∧
    ∀ (place : Option Status) (ops : List Variable.Op),
      let made := Variable.create (ε := NativeEngine library) record place s₀
      let s := History.after Variable.step ops (made.1.1, made.2)
      Variable.Reports record .reset s ∧
      (∀ config, Variable.Reports record (.applyConfig config) s) ∧
      ∀ direction channels,
        (∀ frame, Variable.Reports record (.processFloat direction frame channels) s) ∧
        (∀ frame, Variable.Reports record (.processPcm direction frame channels) s) := by
  constructor
  · by_cases hcounts : ∀ direction, IsStreamCount (record.channels direction)
    · cases hanswer : (library.answer (.create (.ofConfig record.toConfig)) s₀.state).1 with
      | none => exact Variable.createsTruly_of_refused hcounts hanswer
      | some ref => exact Variable.createsTruly_of_granted hcounts hanswer
    · exact Variable.createsTruly_of_channels hcounts s₀
  · intro place ops made s
    rcases hs : s with ⟨v, session⟩
    cases v with
    | none =>
      refine ⟨?_, fun config => ?_, fun direction channels => ⟨fun frame => ?_, fun frame => ?_⟩⟩
      all_goals exact ⟨-1, rfl, Variable.tellsTruth_none record _ session session⟩
    | some h =>
      obtain ⟨hreachable, ⟨e, hopen⟩, hlive⟩ := Variable.live_after hs
      refine ⟨Variable.reports_reset hopen, Variable.reports_applyConfig hopen, ?_⟩
      intro direction channels
      obtain ⟨hcount, hformat⟩ := hlive direction
      constructor
      · intro frame
        exact Variable.reports_processFloat hreachable hopen hcount hformat frame channels
      · intro frame
        exact Variable.reports_processPcm hreachable hopen hcount hformat frame channels

open Boundary Native in
/-- A library that answers frames with minus four, the number for a wrong channel count, is reported
as it answers, also when there is nothing wrong with the frame. A frame of wrong length, and any
frame after the end of the handle, are reported for what they are. -/
theorem statusCodes_tellTruth_of_reversing :
    let library : Library Unit Unit := Library.reversing (-4)
    let frame : Option (List Int16) := some (List.replicate 480 0)
    ∃ (h : Handle (NativeEngine library)) (s : Session Unit Unit),
      Variable.create .default (some 7) ⟨(), []⟩ = ((some h, some 0), s) ∧
      (Variable.step (.processPcm .capture frame 1) (some h, s)).1.status? = some (-4) ∧
      (Variable.step (.processPcm .capture none 1) (some h, s)).1.status? = some (-6) ∧
      (Variable.step (.processPcm .capture frame 1)
        (History.after Variable.step [.destroy] (some h, s))).1.status? = some (-1) := by
  intro library frame
  obtain ⟨h, s, hmade⟩ : ∃ (h : Handle (NativeEngine library)) (s : Session Unit Unit),
      Variable.create .default (some 7) ⟨(), []⟩ = ((some h, some 0), s) := ⟨_, _, rfl⟩
  have hreports (ops : List Variable.Op) (frame : Option (List Int16)) :=
    ((((statusCodes_tellTruth library .default ⟨(), []⟩).2 (some 7) ops).2.2 .capture 1).2 frame)
  simp only [hmade] at hreports
  have hmatches (frame : Option (List Int16)) :
      ¬(Variable.Op.processPcm .capture frame 1).Mismatches .default := not_not_intro rfl
  have hlength : ((List.replicate 480 (0 : Int16)).length : Int) = 480 * (1 : Int32).toInt := by
    rw [List.length_replicate]
    rfl
  have hfits : ¬(Variable.Op.processPcm .capture frame 1).Misfits .default :=
    not_not_intro hlength
  have hmisfits : (Variable.Op.processPcm .capture none 1).Misfits .default := by
    intro hzero
    exact absurd hzero (by decide)
  refine ⟨h, s, hmade, ?_, ?_, ?_⟩
  · obtain ⟨given, hgiven, htells⟩ := hreports [] frame
    obtain ⟨_, _, call, -, -, hrequest, hanswered⟩ :=
      htells.of_answer (Option.some_ne_none h) (hmatches frame) hfits
    obtain rfl := Option.some.inj hrequest
    rw [← Option.some.inj hanswered.answer] at hgiven
    exact hgiven
  · obtain ⟨given, hgiven, htells⟩ := hreports [] none
    rw [htells.of_length (Option.some_ne_none h) (hmatches none) hmisfits] at hgiven
    exact hgiven
  · obtain ⟨given, hgiven, htells⟩ := hreports [.destroy] frame
    rw [htells.of_null rfl] at hgiven
    exact hgiven

end VoiceProcessing
