import VoiceProcessing.Proofs.FrontEnds
import VoiceProcessing.Proofs.NativeCalls

/-!
# Failed frames leave no trace

When a frame call fails, the caller's frame and everything that can be seen of the handle are as
they were before. If the failure lies in the frame or the handle and not in the engine, then the
engine has not been asked, so that it too is as it was. The same holds of frame calls on handle
variables.

The engine may have changed every sample that it was lent before it failed.
-/

namespace VoiceProcessing

variable {ε ω : Type} [Engine ε ω]

/-- Whether an error is found before an engine is asked. -/
def Error.precedesEngine : Error → Bool
  | closed | channelMismatch _ _ | lengthMismatch _ _ => true
  | invalidChannels _ _ | create _ | engine _ => false

/-- A frame call that failed for the given reason has left no trace in the caller's frame nor in
what can be seen of the object it was made on; if the engine was not to be asked, it was not, and
the object and the world are the same. -/
structure LeavesNoTrace {F S V W : Type} (visible : S → V) (frame out : F) (s s' : S × W)
    (calls : List Engine.Op) (e : Error) : Prop where
  frame_eq : out = frame
  visible_eq : visible s'.1 = visible s.1
  unasked : e.precedesEngine = true → calls = [] ∧ s' = s

namespace Handle

omit [Engine ε ω] in
/-- What can be seen of a handle without asking the engine: the snapshot, the delay hint, the
formats of the streams, and whether it is closed. -/
def visible (h : Handle ε) : Statistics × StreamDelay × StreamFormat × StreamFormat × Bool :=
  (h.statistics, h.streamDelay, h.capture, h.render, h.isClosed)

/-- If the engine fails, the frame and what can be seen of the handle stay. -/
theorem settle_of_failed {F : Type} {direction : Direction} {frame out : F} {h : Handle ε}
    {result : Except EngineError Unit} {s : ε × ω} {e : Error}
    (hfailed : (h.settle direction frame out result s).1 = .error e) (hopen : h.isClosed = false) :
    (h.settle direction frame out result s).2.1 = frame ∧
      (h.settle direction frame out result s).2.2.1.visible = h.visible ∧
      e.precedesEngine = false := by
  cases result with
  | ok _ => cases hfailed
  | error err =>
    cases hfailed
    simp only [settle, visible, hopen]
    exact ⟨trivial, rfl, rfl⟩

/-- A frame of numbers is answered, and a failure leaves no trace. -/
theorem processFloat_leavesNoTrace {h : Handle ε} (hscratch : h.HasScratch)
    (direction : Direction) (frame : List Binary32) (declared : Nat) (world : ω) :
    ∃ result out s', h.processFloat direction frame declared world = .ok (result, out, s') ∧
      ∀ e, result = .error e → LeavesNoTrace visible frame out (h, world) s'
        (engineCalls (.processFloat direction frame declared) (h, world)) e := by
  cases hrefusal : h.refusal direction frame.length declared with
  | some e =>
    refine ⟨_, _, _, processFloat_of_refused hrefusal world, ?_⟩
    intro e' hsame
    cases hsame
    exact ⟨rfl, rfl, fun _ => ⟨engineCalls_processFloat_of_refused hrefusal world, rfl⟩⟩
  | none =>
    obtain ⟨⟨engine, hopen⟩, -⟩ := open_of_refusal_eq_none hrefusal
    refine ⟨_, _, _, processFloat_of_accepted hscratch hopen hrefusal world, ?_⟩
    intro e hfailed
    obtain ⟨hframe, hvisible, hlate⟩ := settle_of_failed hfailed (isClosed_of_open hopen)
    exact ⟨hframe, hvisible, fun hearly => absurd (hearly.symm.trans hlate) Bool.noConfusion⟩

/-- A frame of 16-bit samples is answered, and a failure leaves no trace. -/
theorem processPcm_leavesNoTrace [LawfulEngine ε ω] (h : Handle ε) (direction : Direction)
    (frame : List Int16) (declared : Nat) (world : ω) :
    ∃ result out s', h.processPcm direction frame declared world = .ok (result, out, s') ∧
      ∀ e, result = .error e → LeavesNoTrace visible frame out (h, world) s'
        (engineCalls (.processPcm direction frame declared) (h, world)) e := by
  cases hrefusal : h.refusal direction frame.length declared with
  | some e =>
    refine ⟨_, _, _, processPcm_of_refused hrefusal world, ?_⟩
    intro e' hsame
    cases hsame
    exact ⟨rfl, rfl, fun _ => ⟨engineCalls_processPcm_of_refused hrefusal world, rfl⟩⟩
  | none =>
    obtain ⟨⟨engine, hopen⟩, -⟩ := open_of_refusal_eq_none hrefusal
    refine ⟨_, _, _, processPcm_of_accepted hopen hrefusal world, ?_⟩
    intro e hfailed
    obtain ⟨hframe, hvisible, hlate⟩ := settle_of_failed hfailed (isClosed_of_open hopen)
    exact ⟨hframe, hvisible, fun hearly => absurd (hearly.symm.trans hlate) Bool.noConfusion⟩

end Handle

namespace Boundary.Variable

omit [Engine ε ω] in
/-- What can be seen of the handle of a variable, if there is one. -/
def visible (v : Variable ε) :
    Option (Statistics × StreamDelay × StreamFormat × StreamFormat × Bool) :=
  v.map Handle.visible

omit [Engine ε ω] in
/-- The result behind the status of a call: that of the call on the handle, which counts as closed
if there is none. -/
def resultOf {A : Type} (v : Variable ε) (call : Handle ε → Except Fault (Except Error Unit × A)) :
    Except Fault (Except Error Unit) :=
  match v with
  | none => .ok (.error .closed)
  | some h => (call h).map Prod.fst

omit [Engine ε ω] in
/-- Whatever failed on a variable without a handle has left no trace. -/
theorem leavesNoTrace_none {F : Type} (frame : F) (world : ω) {result : Except Error Unit}
    {calls : List Engine.Op} (hcalls : calls = []) (e : Error) (_ : result = .error e) :
    LeavesNoTrace visible frame frame ((none : Variable ε), world) (none, world) calls e :=
  ⟨rfl, rfl, fun _ => ⟨hcalls, rfl⟩⟩

omit [Engine ε ω] in
/-- What left no trace in a handle and in the frame at the end of a pointer has left none in the
variable and behind the pointer. -/
theorem leavesNoTrace_some {A : Type} {frame : Option (List A)} {out : List A} {h h' : Handle ε}
    {world world' : ω} {calls calls' : List Engine.Op} (hcalls : calls' = calls) {e : Error}
    (htrace : LeavesNoTrace Handle.visible (frame.getD []) out (h, world) (h', world') calls e) :
    LeavesNoTrace visible frame (frame.map fun _ => out) (some h, world) (some h', world') calls'
      e := by
  obtain ⟨rfl, hvisible, hunasked⟩ := htrace
  refine ⟨?_, congrArg some hvisible, fun hearly => ?_⟩
  · cases frame <;> rfl
  · obtain ⟨hnone, hsame⟩ := hunasked hearly
    cases hsame
    exact ⟨hcalls.trans hnone, rfl⟩

/-- A call with a frame of numbers on a variable gives the status of a result, and a failure leaves
no trace. -/
theorem processFloat_leavesNoTrace [LawfulEngine ε ω] {v : Variable ε} {world : ω}
    (hreachable : Reachable (v, world)) (direction : Direction) (frame : Option (List Binary32))
    (channels : Int32) :
    ∃ result out s',
      v.resultOf (fun h =>
        h.processFloat direction (frame.getD []) (declaredCount channels) world) = .ok result ∧
      v.processFloat direction frame channels world = (statusOf result, out, s') ∧
      ∀ e, result = .error e → LeavesNoTrace visible frame out (v, world) s'
        (engineCalls (.processFloat direction frame channels) (v, world)) e := by
  cases v with
  | none =>
    exact ⟨_, _, _, rfl, rfl, leavesNoTrace_none frame world (engineCalls_none _ world)⟩
  | some h =>
    obtain ⟨result, out, s', hcall, htrace⟩ := Handle.processFloat_leavesNoTrace
      hreachable.handle.hasScratch direction (frame.getD []) (declaredCount channels) world
    refine ⟨result, frame.map fun _ => out, (some s'.1, s'.2), ?_, ?_, ?_⟩
    · simp only [resultOf, hcall]
      rfl
    · simp only [processFloat, hcall]
    · intro e hfailed
      exact leavesNoTrace_some (engineCalls_some (by simp) rfl h world) (htrace e hfailed)

/-- A call with a frame of 16-bit samples on a variable gives the status of a result, and a failure
leaves no trace. -/
theorem processPcm_leavesNoTrace [LawfulEngine ε ω] (v : Variable ε) (world : ω)
    (direction : Direction) (frame : Option (List Int16)) (channels : Int32) :
    ∃ result out s',
      v.resultOf (fun h =>
        h.processPcm direction (frame.getD []) (declaredCount channels) world) = .ok result ∧
      v.processPcm direction frame channels world = (statusOf result, out, s') ∧
      ∀ e, result = .error e → LeavesNoTrace visible frame out (v, world) s'
        (engineCalls (.processPcm direction frame channels) (v, world)) e := by
  cases v with
  | none =>
    exact ⟨_, _, _, rfl, rfl, leavesNoTrace_none frame world (engineCalls_none _ world)⟩
  | some h =>
    obtain ⟨result, out, s', hcall, htrace⟩ := Handle.processPcm_leavesNoTrace h direction
      (frame.getD []) (declaredCount channels) world
    refine ⟨result, frame.map fun _ => out, (some s'.1, s'.2), ?_, ?_, ?_⟩
    · simp only [resultOf, hcall]
      rfl
    · simp only [processPcm, hcall]
    · intro e hfailed
      exact leavesNoTrace_some (engineCalls_some (by simp) rfl h world) (htrace e hfailed)

end Boundary.Variable

/-- Every frame call on a handle returns, and if it fails it leaves no trace. A frame call on a
handle variable reports what the call on its handle returns, and if that is a failure it leaves no
trace either. -/
theorem failedFrames_leaveNoTrace [LawfulEngine ε ω] :
    (∀ (h : Handle ε) (world : ω), Handle.Reachable (h, world) → ∀ direction declared,
      (∀ frame, ∃ result out s',
        h.processFloat direction frame declared world = .ok (result, out, s') ∧
        ∀ e, result = .error e → LeavesNoTrace Handle.visible frame out (h, world) s'
          (Handle.engineCalls (.processFloat direction frame declared) (h, world)) e) ∧
      (∀ frame, ∃ result out s',
        h.processPcm direction frame declared world = .ok (result, out, s') ∧
        ∀ e, result = .error e → LeavesNoTrace Handle.visible frame out (h, world) s'
          (Handle.engineCalls (.processPcm direction frame declared) (h, world)) e)) ∧
    (∀ (v : Boundary.Variable ε) (world : ω), Boundary.Variable.Reachable (v, world) →
      ∀ direction channels,
      (∀ frame, ∃ result out s',
        v.resultOf (fun h => h.processFloat direction (frame.getD [])
          (Boundary.declaredCount channels) world) = .ok result ∧
        v.processFloat direction frame channels world = (Boundary.statusOf result, out, s') ∧
        ∀ e, result = .error e → LeavesNoTrace Boundary.Variable.visible frame out (v, world) s'
          (Boundary.Variable.engineCalls (.processFloat direction frame channels) (v, world)) e) ∧
      (∀ frame, ∃ result out s',
        v.resultOf (fun h => h.processPcm direction (frame.getD [])
          (Boundary.declaredCount channels) world) = .ok result ∧
        v.processPcm direction frame channels world = (Boundary.statusOf result, out, s') ∧
        ∀ e, result = .error e → LeavesNoTrace Boundary.Variable.visible frame out (v, world) s'
          (Boundary.Variable.engineCalls (.processPcm direction frame channels) (v, world))
          e)) := by
  constructor
  · intro h world hreachable direction declared
    exact ⟨fun frame => Handle.processFloat_leavesNoTrace hreachable.hasScratch _ frame _ world,
      fun frame => Handle.processPcm_leavesNoTrace h _ frame _ world⟩
  · intro v world hreachable direction channels
    exact ⟨fun frame =>
        Boundary.Variable.processFloat_leavesNoTrace hreachable direction frame channels,
      fun frame => Boundary.Variable.processPcm_leavesNoTrace v world direction frame channels⟩

set_option maxRecDepth 8192 in
/-- A library may have reversed the samples of a frame by the time it fails: the caller gets them
back in their order, from a handle as well as from a variable. -/
theorem failedFrames_leaveNoTrace_of_reversing :
    ∃ (h : Handle (Native.NativeEngine (Native.Library.reversing Status.badDataLength)))
        (s : Native.Session Unit Unit),
      Handle.Reachable (h, s) ∧ Boundary.Variable.Reachable (some h, s) ∧
      let frame : List Binary32 := (List.range 480).map Binary.ofBits
      (∃ s', h.processFloat .capture frame 1 s =
          .ok (.error (.engine Status.badDataLength), frame, s') ∧
        s'.1.visible = h.visible) ∧
      ∃ s', Boundary.Variable.processFloat .capture (some frame) 1 (some h) s =
          (Status.badDataLength, some frame, s') ∧
        Boundary.Variable.visible s'.1 = some h.visible := by
  obtain ⟨h, s, hcreate, hfails⟩ :
      ∃ (h : Handle (Native.NativeEngine (Native.Library.reversing Status.badDataLength)))
          (s : Native.Session Unit Unit),
        Handle.create {} ⟨(), []⟩ = (.ok h, s) ∧
        (h.processFloat .capture ((List.range 480).map Binary.ofBits) 1 s).map Prod.fst =
          .ok (.error (.engine Status.badDataLength)) := ⟨_, _, rfl, rfl⟩
  have hdefault : Boundary.ConfigRecord.default.toConfig = {} := rfl
  have hhandle : Handle.Reachable (h, s) :=
    History.Reachable.of_initial Handle.step ⟨{}, ⟨(), []⟩, hcreate⟩
  have hvariable : Boundary.Variable.Reachable (some h, s) :=
    History.Reachable.of_initial Boundary.Variable.step
      ⟨.default, none, ⟨(), []⟩, none, by
        simp only [Boundary.Variable.create, hdefault, hcreate, Option.map_none]⟩
  refine ⟨h, s, hhandle, hvariable, ?_, ?_⟩
  · obtain ⟨result, out, s', hcall, htrace⟩ :=
      (failedFrames_leaveNoTrace.1 h s hhandle .capture 1).1 ((List.range 480).map Binary.ofBits)
    rw [hcall] at hfails
    obtain rfl := Except.ok.inj hfails
    obtain ⟨rfl, hvisible, -⟩ := htrace _ rfl
    exact ⟨s', hcall, hvisible⟩
  · obtain ⟨result, out, s', hresult, hcall, htrace⟩ :=
      (failedFrames_leaveNoTrace.2 (some h) s hvariable .capture 1).1
        (some ((List.range 480).map Binary.ofBits))
    obtain rfl := Except.ok.inj (hresult.symm.trans hfails)
    obtain ⟨rfl, hvisible, -⟩ := htrace _ rfl
    exact ⟨s', hcall, hvisible⟩

end VoiceProcessing
