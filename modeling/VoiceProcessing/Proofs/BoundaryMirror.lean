import VoiceProcessing.Proofs.NativeCalls
import VoiceProcessing.Proofs.Snapshot

/-!
# Handle variables mirror handles

A program beyond the boundary makes calls on a handle variable with encoded arguments and gets
encoded answers. Whatever it does, a handle of its own that is treated alike gives the same answers,
decoded, and the engine and its world go through the same states, so the same calls are made beyond
the other boundary, that of the native library. A variable that refers to nothing stands for a
closed handle.
-/

namespace VoiceProcessing.Boundary

/-- A channel count that a program declares stands for itself, and a negative one for any that no
stream has. -/
def Declares (channels : Int32) (declared : Nat) : Prop :=
  if 0 ≤ channels then (declared : Int) = channels.toInt
  else ∀ format : StreamFormat, declared ≠ format.channelCount

/-- A status that tells of a result: zero for success, and otherwise the code of the error. -/
def Tells (status : Status) : Except Error Unit → Prop
  | .ok () => status = 0
  | .error e => status = e.code

/-- A record that shows a snapshot. -/
structure ShowsStatistics (record : StatisticsRecord) (s : Statistics) : Prop where
  echoReturnLoss : record.echoReturnLoss = s.echoReturnLoss
  echoReturnLossEnhancement : record.echoReturnLossEnhancement = s.echoReturnLossEnhancement
  divergentFilterFraction : record.divergentFilterFraction = s.divergentFilterFraction
  residualEchoLikelihood : record.residualEchoLikelihood = s.residualEchoLikelihood
  delayMedianMs : record.delayMedianMs = s.delayMedianMs
  delayDeviationMs : record.delayDeviationMs = s.delayDeviationMs
  delayMs : record.delayMs = s.delayMs

/-- What a program declares is taken as what it stands for. -/
theorem declares_declaredCount (channels : Int32) : Declares channels (declaredCount channels) := by
  unfold Declares declaredCount
  split
  · next hnonnegative =>
    rw [Int32.le_iff_toInt_le, Int32.toInt_zero] at hnonnegative
    exact Int.toNat_of_nonneg hnonnegative
  · intro format
    have hsmall := format.channelCount_lt
    unfold wordLimit
    omega

/-- A count that is not negative stands for one number only. -/
theorem eq_declaredCount {channels : Int32} (hnonnegative : 0 ≤ channels) {declared : Nat}
    (hdeclares : Declares channels declared) : declared = declaredCount channels := by
  have hcount := declares_declaredCount channels
  rw [Declares, if_pos hnonnegative] at hdeclares hcount
  omega

/-- The status of a result tells of it. -/
theorem tells_statusOf (result : Except Error Unit) : Tells (statusOf result) result := by
  cases result <;> rfl

/-- A negative count is refused, and the status does not depend on the number it stands for. -/
theorem refusal_of_negative {ε : Type} (h : Handle ε) (direction : Direction) (length : Nat)
    {channels : Int32} (hnegative : ¬0 ≤ channels) {declared : Nat}
    (hdeclares : Declares channels declared) :
    ∃ e, h.refusal direction length declared = some e ∧
      e.code = if h.isClosed then Status.closed else Status.badChannelCount := by
  rw [Declares, if_neg hnegative] at hdeclares
  unfold Handle.refusal
  by_cases hclosed : h.isClosed = true
  · rw [if_pos hclosed, if_pos hclosed]
    exact ⟨_, rfl, rfl⟩
  · rw [if_neg hclosed, if_neg hclosed, if_pos (hdeclares _)]
    exact ⟨_, rfl, rfl⟩

namespace Variable

variable {ε ω : Type} [Engine ε ω]

/-- A call on a variable, its answer, and the call on a handle that corresponds to it: the state of
the handle before and after. -/
inductive Mirrors : Handle ε × ω → Op → Reply → Handle ε × ω → Prop
  | destroy (h : Handle ε) (world : ω) :
    Mirrors (h, world) .destroy .done (h.destroy world)
  | reset {h : Handle ε} {world : ω} {given : Status} {result : Except Error Unit}
      {t : Handle ε × ω} (called : h.reset world = (result, t)) (tells : Tells given result) :
    Mirrors (h, world) .reset (.status given) t
  | applyConfig {h : Handle ε} {world : ω} {record : ConfigRecord} {given : Status}
      {result : Except Error Unit} {t : Handle ε × ω}
      (called : h.applyConfig record.toConfig world = (result, t)) (tells : Tells given result) :
    Mirrors (h, world) (.applyConfig record) (.status given) t
  | float {h : Handle ε} {world : ω} {direction : Direction} {frame : Option (List Binary32)}
      {channels : Int32} {given : Status} {out : List Binary32} {t : Handle ε × ω}
      (called : ∀ declared, Declares channels declared → ∃ result, Tells given result ∧
        h.processFloat direction (frame.getD []) declared world = .ok (result, out, t)) :
    Mirrors (h, world) (.processFloat direction frame channels)
      (.float given (frame.map fun _ => out)) t
  | pcm {h : Handle ε} {world : ω} {direction : Direction} {frame : Option (List Int16)}
      {channels : Int32} {given : Status} {out : List Int16} {t : Handle ε × ω}
      (called : ∀ declared, Declares channels declared → ∃ result, Tells given result ∧
        h.processPcm direction (frame.getD []) declared world = .ok (result, out, t)) :
    Mirrors (h, world) (.processPcm direction frame channels)
      (.pcm given (frame.map fun _ => out)) t
  | statistics {h : Handle ε} {world : ω} {record : StatisticsRecord}
      (shows : ShowsStatistics record h.statistics) :
    Mirrors (h, world) .statistics (.statistics record) (h, world)
  | setAgnostic (h : Handle ε) (world : ω) {ms : Int32} (negative : ms < 0) :
    Mirrors (h, world) (.setStreamDelayMs ms) .done (h.setStreamDelay .agnostic world)
  | setFixed (h : Handle ε) (world : ω) {ms : Int32} (nonnegative : 0 ≤ ms) :
    Mirrors (h, world) (.setStreamDelayMs ms) .done (h.setStreamDelay (.fixed ms) world)
  | setAnalogLevel (h : Handle ε) (world : ω) (level : Int32) :
    Mirrors (h, world) (.setAnalogLevel level) .done (h.setAnalogLevel level world)
  | setOutputMuted (h : Handle ε) (world : ω) (muted : Bool) :
    Mirrors (h, world) (.setOutputMuted muted) .done (h.setOutputMuted muted world)
  | setKeyPressed (h : Handle ε) (world : ω) (pressed : Bool) :
    Mirrors (h, world) (.setKeyPressed pressed) .done (h.setKeyPressed pressed world)
  | streamDelayMs {h : Handle ε} {world : ω} {value : Option Int32} {t : Handle ε × ω}
      (called : h.streamDelayMs world = (value, t)) :
    Mirrors (h, world) .streamDelayMs (.reading (value.getD 0)) t
  | recommendedLevel {h : Handle ε} {world : ω} {value : Option Int32} {t : Handle ε × ω}
      (called : h.recommendedLevel world = (value, t)) :
    Mirrors (h, world) .recommendedLevel (.reading (value.getD 0)) t

/-- The state of a variable and its world, given those of a handle that is treated alike. -/
def showing (t : Handle ε × ω) : Variable ε × ω :=
  (if t.1.isClosed then none else some t.1, t.2)

/-- A list of calls on a variable, each mirrored by a call on the handle that the variable shows. -/
inductive InStep : List Op → Variable ε × ω → Handle ε × ω → Prop
  | done (t : Handle ε × ω) : InStep [] (showing t) t
  | call {op : Op} {ops : List Op} {t t' : Handle ε × ω}
      (mirrored : Mirrors t op (step op (showing t)).1 t')
      (later : InStep ops (step op (showing t)).2 t') : InStep (op :: ops) (showing t) t

/-- What every call answers without a handle. -/
def Op.nullReply : Op → Reply
  | .destroy | .setStreamDelayMs _ | .setAnalogLevel _ | .setOutputMuted _ | .setKeyPressed _ =>
    .done
  | .reset | .applyConfig _ => .status (-1)
  | .processFloat _ frame _ => .float (-1) frame
  | .processPcm _ frame _ => .pcm (-1) frame
  | .statistics => .statistics {}
  | .streamDelayMs | .recommendedLevel => .reading 0

omit [Engine ε ω] in
/-- A frame is answered alike whatever number its declared count stands for, if a refused frame is
answered with the reason alone, and one that is not refused is answered at all. -/
theorem answered_of_declares {F : Type} {h : Handle ε} {direction : Direction} {length : Nat}
    {frame : F} {world : ω} (process : Nat → Except Fault (Except Error Unit × F × Handle ε × ω))
    (refused : ∀ {declared e}, h.refusal direction length declared = some e →
      process declared = .ok (.error e, frame, h, world))
    (accepted : ∀ {declared}, h.refusal direction length declared = none →
      ∃ answer, process declared = .ok answer) (channels : Int32) :
    ∃ given out t, process (declaredCount channels) = .ok (given, out, t) ∧
      ∀ declared, Declares channels declared →
        ∃ result, Tells (statusOf given) result ∧ process declared = .ok (result, out, t) := by
  by_cases hnonnegative : 0 ≤ channels
  · have hanswer : ∃ answer, process (declaredCount channels) = .ok answer := by
      cases hrefusal : h.refusal direction length (declaredCount channels) with
      | some e => exact ⟨_, refused hrefusal⟩
      | none => exact accepted hrefusal
    obtain ⟨⟨given, out, t⟩, hcall⟩ := hanswer
    refine ⟨given, out, t, hcall, ?_⟩
    intro declared hdeclares
    rw [eq_declaredCount hnonnegative hdeclares]
    exact ⟨given, tells_statusOf given, hcall⟩
  · obtain ⟨e, hrefusal, hcode⟩ := refusal_of_negative h direction length hnonnegative
      (declares_declaredCount channels)
    refine ⟨_, _, _, refused hrefusal, ?_⟩
    intro declared hdeclares
    obtain ⟨e', hrefusal', hcode'⟩ := refusal_of_negative h direction length hnonnegative hdeclares
    exact ⟨.error e', hcode.trans hcode'.symm, refused hrefusal'⟩

/-- A call on a variable that refers to a handle is mirrored by the calls on the handle that it
amounts to. -/
theorem mirrors_some [LawfulEngine ε ω] {h : Handle ε} (hscratch : h.HasScratch) (op : Op)
    (world : ω) :
    Mirrors (h, world) op (step op (some h, world)).1
      (History.after Handle.step op.onHandle (h, world)) := by
  cases op with
  | destroy => exact .destroy h world
  | reset => exact .reset rfl (tells_statusOf _)
  | applyConfig record => exact .applyConfig rfl (tells_statusOf _)
  | processFloat direction frame channels =>
    obtain ⟨given, out, t, hcall, hdeclared⟩ := answered_of_declares
      (fun declared => h.processFloat direction (frame.getD []) declared world)
      (fun hrefused => Handle.processFloat_of_refused hrefused world)
      (fun haccepted => by
        obtain ⟨⟨engine, hopen⟩, -, -⟩ := Handle.open_of_refusal_eq_none haccepted
        exact ⟨_, Handle.processFloat_of_accepted hscratch hopen haccepted world⟩) channels
    simp only [step, processFloat, Op.onHandle, History.after_cons, History.after_nil, Handle.step,
      hcall]
    exact .float hdeclared
  | processPcm direction frame channels =>
    obtain ⟨given, out, t, hcall, hdeclared⟩ := answered_of_declares
      (fun declared => h.processPcm direction (frame.getD []) declared world)
      (fun hrefused => Handle.processPcm_of_refused hrefused world)
      (fun haccepted => by
        obtain ⟨⟨engine, hopen⟩, -, -⟩ := Handle.open_of_refusal_eq_none haccepted
        exact ⟨_, Handle.processPcm_of_accepted hopen haccepted world⟩) channels
    simp only [step, processPcm, Op.onHandle, History.after_cons, History.after_nil, Handle.step,
      hcall]
    exact .pcm hdeclared
  | statistics => exact .statistics ⟨rfl, rfl, rfl, rfl, rfl, rfl, rfl⟩
  | setStreamDelayMs ms =>
    simp only [Op.onHandle, streamDelayOfMs]
    by_cases hnegative : ms < 0
    · rw [if_pos hnegative]
      exact .setAgnostic h world hnegative
    · rw [if_neg hnegative]
      exact .setFixed h world (Int32.not_lt.mp hnegative)
  | setAnalogLevel level => exact .setAnalogLevel h world level
  | setOutputMuted muted => exact .setOutputMuted h world muted
  | setKeyPressed pressed => exact .setKeyPressed h world pressed
  | streamDelayMs => exact .streamDelayMs rfl
  | recommendedLevel => exact .recommendedLevel rfl

/-- Without a handle every call is answered in one way, and nothing changes. -/
theorem step_eq_nullReply (op : Op) (world : ω) :
    step op ((none : Variable ε), world) = (op.nullReply, none, world) := by
  cases op <;> rfl

/-- A closed handle with nothing in its snapshot answers as no handle does. -/
theorem mirrors_closed {h : Handle ε} (hclosed : h.engine = none) (hempty : h.statistics = {})
    (op : Op) (world : ω) : Mirrors (h, world) op op.nullReply (h, world) := by
  have hdestroy : h.destroy world = (h, world) := by simp only [Handle.destroy, hclosed]
  have hdelay (delay : StreamDelay) : h.setStreamDelay delay world = (h, world) := by
    simp only [Handle.setStreamDelay, hclosed]
  have hhint (hint : Hint) : h.hint hint world = (h, world) := by
    simp only [Handle.hint, hclosed]
  have hread (reading : ε → ω → Int32 × ε × ω) : h.read reading world = (none, h, world) := by
    simp only [Handle.read, hclosed]
  have hframe {F : Type} (frame : Option (List F)) :
      (frame.map fun _ => frame.getD []) = frame := by
    cases frame <;> rfl
  cases op with
  | destroy =>
    have hmirrors := Mirrors.destroy h world
    rwa [hdestroy] at hmirrors
  | reset =>
    have hreset : h.reset world = (.error .closed, h, world) := by simp only [Handle.reset, hclosed]
    exact .reset hreset rfl
  | applyConfig record =>
    have happly : h.applyConfig record.toConfig world = (.error .closed, h, world) := by
      simp only [Handle.applyConfig, hclosed]
    exact .applyConfig happly rfl
  | processFloat direction frame channels =>
    have hmirrors : Mirrors (h, world) (.processFloat direction frame channels)
        (.float (-1) (frame.map fun _ => frame.getD [])) (h, world) := by
      refine .float fun declared _ => ⟨.error .closed, rfl, ?_⟩
      exact Handle.processFloat_of_refused (Handle.refusal_of_closed hclosed _ _ _) world
    rwa [hframe] at hmirrors
  | processPcm direction frame channels =>
    have hmirrors : Mirrors (h, world) (.processPcm direction frame channels)
        (.pcm (-1) (frame.map fun _ => frame.getD [])) (h, world) := by
      refine .pcm fun declared _ => ⟨.error .closed, rfl, ?_⟩
      exact Handle.processPcm_of_refused (Handle.refusal_of_closed hclosed _ _ _) world
    rwa [hframe] at hmirrors
  | statistics =>
    refine .statistics ?_
    rw [hempty]
    exact ⟨rfl, rfl, rfl, rfl, rfl, rfl, rfl⟩
  | setStreamDelayMs ms =>
    by_cases hnegative : ms < 0
    · have hmirrors := Mirrors.setAgnostic h world hnegative
      rwa [hdelay] at hmirrors
    · have hmirrors := Mirrors.setFixed h world (Int32.not_lt.mp hnegative)
      rwa [hdelay] at hmirrors
  | setAnalogLevel level =>
    have hmirrors := Mirrors.setAnalogLevel h world level
    rwa [Handle.setAnalogLevel, hhint] at hmirrors
  | setOutputMuted muted =>
    have hmirrors := Mirrors.setOutputMuted h world muted
    rwa [Handle.setOutputMuted, hhint] at hmirrors
  | setKeyPressed pressed =>
    have hmirrors := Mirrors.setKeyPressed h world pressed
    rwa [Handle.setKeyPressed, hhint] at hmirrors
  | streamDelayMs => exact .streamDelayMs (hread _)
  | recommendedLevel => exact .recommendedLevel (hread _)

/-- Whatever calls are made on a variable that shows an orderly handle, the handle keeps step. -/
theorem inStep [LawfulEngine ε ω] (ops : List Op) {t : Handle ε × ω} (ht : Handle.Orderly t) :
    InStep ops (showing t) t := by
  induction ops generalizing t with
  | nil => exact .done t
  | cons op ops ih =>
    obtain ⟨-, hshows⟩ := Shows.step op (showing t) t ⟨ht.1, rfl⟩
    have hlater : InStep ops (step op (showing t)).2 (History.after Handle.step op.onHandle t) := by
      rw [hshows]
      exact ih (History.after_invariant Handle.step Handle.Orderly.step op.onHandle ht)
    refine .call ?_ hlater
    obtain ⟨h, world⟩ := t
    -- A closed handle is shown by a variable that refers to nothing, an open one by itself.
    by_cases hclosed : h.isClosed = true
    · have hengine : h.engine = none := Option.isNone_iff_eq_none.mp hclosed
      rw [showing, if_pos hclosed, step_eq_nullReply,
        Handle.after_closed (s := (h, world)) hengine op.onHandle]
      exact mirrors_closed hengine (ht.2 hengine) op world
    · rw [showing, if_neg hclosed]
      exact mirrors_some ht.1 op world

end Variable

end VoiceProcessing.Boundary

namespace VoiceProcessing

open Boundary Native

/-- Whatever the native library does, a handle variable is created as the handle for its record is,
and from then on mirrors it through every list of calls. Without a handle, every call is answered as
any closed handle would answer it, and leaves the library alone. -/
theorem variables_mirrorHandles {σ ι : Type} (library : Library σ ι) :
    (∀ (record : ConfigRecord) (place : Option Status) (s₀ : Session σ ι),
      let made := Variable.create (ε := NativeEngine library) record place s₀
      (∀ e s, Handle.create (ε := NativeEngine library) record.toConfig s₀ = (.error e, s) →
        made = ((none, place.map fun _ => e.code), s)) ∧
      ∀ h s, Handle.create (ε := NativeEngine library) record.toConfig s₀ = (.ok h, s) →
        made = ((some h, place.map fun _ => 0), s) ∧
          ∀ ops, Variable.InStep ops (some h, s) (h, s)) ∧
    ∀ (op : Variable.Op) (s : Session σ ι),
      Variable.step op ((none : Variable (NativeEngine library)), s) = (op.nullReply, none, s) ∧
      ∀ (h : Handle (NativeEngine library)) (s' : Session σ ι),
        Handle.Reachable (h, s') → h.isClosed = true →
          Variable.Mirrors (h, s) op op.nullReply (h, s) := by
  refine ⟨?_, ?_⟩
  · intro record place s₀ made
    refine ⟨?_, ?_⟩
    · intro e s hcreate
      simp only [made, Variable.create, hcreate]
    · intro h s hcreate
      refine ⟨?_, ?_⟩
      · simp only [made, Variable.create, hcreate]
        rfl
      · intro ops
        have horderly := Handle.orderly_of_create hcreate
        obtain ⟨-, hshows⟩ := Variable.Shows.of_create hcreate
        rw [hshows]
        exact Variable.inStep ops horderly
  · intro op s
    refine ⟨Variable.step_eq_nullReply op s, ?_⟩
    intro h s' hreachable hclosed
    have horderly : Handle.Orderly (h, s') := by
      refine History.Reachable.invariant (P := Handle.Orderly) ?_ Handle.Orderly.step hreachable
      rintro ⟨h, s⟩ ⟨config, s₀, hcreate⟩
      exact Handle.orderly_of_create hcreate
    have hengine : h.engine = none := Option.isNone_iff_eq_none.mp hclosed
    exact Variable.mirrors_closed hengine (horderly.2 hengine) op s

/-- With a library that grants everything, a variable keeps step with its handle through a negative
channel count, a negative delay and two ends, after which resetting is refused. A record with no
capture channel gives no handle. -/
theorem variables_mirrorHandles_of_reversing :
    let library : Library Unit Unit := Library.reversing Status.ok
    let ops : List Variable.Op :=
      [.processFloat .capture none (-1), .setStreamDelayMs (-5), .destroy, .reset, .destroy]
    (∃ (h : Handle (NativeEngine library)) (s : Session Unit Unit),
      Variable.create .default (some 7) ⟨(), []⟩ = ((some h, some 0), s) ∧
      Variable.InStep ops (some h, s) (h, s) ∧
      Variable.Mirrors ((h.destroy s).1, s) .reset (.status (-1)) ((h.destroy s).1, s)) ∧
    Variable.create (ε := NativeEngine library) { ConfigRecord.default with captureChannels := 0 }
        (some 7) ⟨(), []⟩ = ((none, some (-4)), ⟨(), []⟩) := by
  intro library ops
  constructor
  · have hmade : ∃ (h : Handle (NativeEngine library)) (s : Session Unit Unit),
        Handle.create ConfigRecord.default.toConfig ⟨(), []⟩ = (.ok h, s) := ⟨_, _, rfl⟩
    obtain ⟨h, s, hcreate⟩ := hmade
    obtain ⟨hvariable, hinStep⟩ :=
      ((variables_mirrorHandles library).1 .default (some 7) ⟨(), []⟩).2 h s hcreate
    have hnew : Handle.Reachable (h, s) := History.Reachable.of_initial Handle.step ⟨_, _, hcreate⟩
    have hclosed : Handle.Reachable (h.destroy s) := hnew.later Handle.step [.destroy]
    have hnull := ((variables_mirrorHandles library).2 .reset s).2 (h.destroy s).1 (h.destroy s).2
      hclosed (Option.isNone_iff_eq_none.mpr (Handle.engine_destroy h s))
    exact ⟨h, s, hvariable, hinStep ops, hnull⟩
  · exact ((variables_mirrorHandles library).1 { ConfigRecord.default with captureChannels := 0 }
      (some 7) ⟨(), []⟩).1 (.invalidChannels 0 1) ⟨(), []⟩ rfl

end VoiceProcessing
