import VoiceProcessing.Proofs.EngineGeometry

/-!
# What engines refuse by themselves

An engine without a handle around it may be shown frames of any shape: too many buffers or too few,
buffers of unequal lengths, and empty ones. Both engines look at the number of the buffers first and
at their lengths after that, each with a check of its own, and refuse the same frames with the same
status. Neither a refused frame nor the engine is changed, and the native library does not hear of
it. Any other frame succeeds with the bypass engine, and with the native engine it is lent to the
library, whose status is the result.
-/

namespace VoiceProcessing

variable {ε ω : Type}

namespace Engine

/-- The status with which channel buffers are refused for a stream of `count` channels, if they are.
A wrong number of buffers comes before wrong lengths. -/
def channelsFault (count : Nat) (channels : List (List Binary32)) : Option Status :=
  if channels.length ≠ count then some (-4)
  else if ∃ channel ∈ channels, channel.length ≠ 480 then some (-6)
  else none

/-- The status with which interleaved samples are refused for a stream of `count` channels, if they
are. -/
def samplesFault (count : Nat) (samples : List Int16) : Option Status :=
  if samples.length ≠ 480 * count then some (-6) else none

/-- The outcome of a check that has found the given fault, if any. -/
def outcomeOf : Option Status → Except EngineError Unit
  | some code => .error ⟨code⟩
  | none => .ok ()

/-- Buffers without a fault are as many as the channels and hold one frame each. -/
theorem channelsFault_eq_none_iff (count : Nat) (channels : List (List Binary32)) :
    channelsFault count channels = none ↔
      channels.length = count ∧ ∀ channel ∈ channels, channel.length = 480 := by
  unfold channelsFault
  by_cases hcount : channels.length = count
  · simp [hcount]
  · simp [hcount]

/-- Samples without a fault are one frame of all channels. -/
theorem samplesFault_eq_none_iff (count : Nat) (samples : List Int16) :
    samplesFault count samples = none ↔ samples.length = 480 * count := by
  simp [samplesFault]

/-- Looking at the number of buffers and then at their lengths finds the fault of the buffers. -/
theorem outcomeOf_channelsFault (count : Nat) (channels : List (List Binary32)) :
    outcomeOf (channelsFault count channels) =
      if channels.length ≠ count then .error ⟨Status.badChannelCount⟩
      else if channels.any (·.length ≠ samplesPerFrame) then .error ⟨Status.badDataLength⟩
      else .ok () := by
  have hany : channels.any (·.length ≠ samplesPerFrame) = true ↔
      ∃ channel ∈ channels, channel.length ≠ 480 := by
    simp only [List.any_eq_true, decide_eq_true_eq]
    rfl
  unfold channelsFault
  by_cases hcount : channels.length ≠ count
  · rw [if_pos hcount, if_pos hcount]
    rfl
  · rw [if_neg hcount, if_neg hcount]
    by_cases hlengths : ∃ channel ∈ channels, channel.length ≠ 480
    · rw [if_pos hlengths, if_pos (hany.mpr hlengths)]
      rfl
    · rw [if_neg hlengths, if_neg (mt hany.mp hlengths)]
      rfl

/-- Looking at the number of samples finds the fault of the samples. -/
theorem outcomeOf_samplesFault (count : Nat) (samples : List Int16) :
    outcomeOf (samplesFault count samples) =
      if samples.length ≠ count * samplesPerFrame then .error ⟨Status.badDataLength⟩
      else .ok () := by
  have hexpected : 480 * count = count * samplesPerFrame := Nat.mul_comm _ _
  unfold samplesFault
  rw [hexpected]
  split <;> rfl

/-- How an engine screens a frame: one with a fault is refused with its status, and the frame, the
engine and its world are left as they were. Of one without a fault `verdict` speaks. -/
structure Screens {F : Type} (fault : Option Status) (frame : F) (s : ε × ω)
    (answer : Except EngineError Unit × F × ε × ω) (verdict : Prop) : Prop where
  of_fault (code : Status) : fault = some code → answer = (.error ⟨code⟩, frame, s)
  of_none : fault = none → verdict

variable [Engine ε ω]

/-- An engine just made for two formats, with the world that its creation left. -/
def MadeFor (capture render : StreamFormat) (s : ε × ω) : Prop :=
  ∃ config world, Engine.create config capture render world = (.ok s.1, s.2)

/-- The engines, with their worlds, that calls can bring about from those made for two formats. -/
def ReachableFor (capture render : StreamFormat) (s : ε × ω) : Prop :=
  History.Reachable Engine.step (MadeFor capture render) s

end Engine

/-- The format of the stream in a direction, given that of each. -/
def Direction.formatOf (capture render : StreamFormat) : Direction → StreamFormat
  | .capture => capture
  | .render => render

namespace Bypass

/-- Calls leave a bypass engine with the formats that it was made for. -/
theorem format_of_reachableFor {capture render : StreamFormat} {b : Bypass} {world : Unit}
    (hreachable : Engine.ReachableFor capture render (b, world)) :
    b.format = Direction.formatOf capture render := by
  apply History.Reachable.invariant
    (P := fun s : Bypass × Unit => s.1.format = Direction.formatOf capture render) ?_ ?_ hreachable
  · rintro ⟨b, world⟩ ⟨config, world₀, hcreate⟩
    cases hcreate
    funext direction
    cases direction <;> rfl
  · intro op s hformat
    rw [format_step op s.1 s.2, hformat]

/-- Channel buffers are refused for their fault, and nothing changes. The bypass engine accepts all
others. -/
theorem screens_processFloat {capture render : StreamFormat} {b : Bypass}
    (hreachable : Engine.ReachableFor capture render (b, ())) (direction : Direction)
    (channels : List (List Binary32)) :
    let answer := Engine.processFloat direction channels b ()
    Engine.Screens
      (Engine.channelsFault (direction.formatOf capture render).channelCount channels) channels
      (b, ()) answer (answer.1 = .ok ()) := by
  have hcheck : checkChannels (b.format direction) channels = _ :=
    (Engine.outcomeOf_channelsFault _ channels).symm
  rw [format_of_reachableFor hreachable] at hcheck
  constructor
  · intro code hfault
    rw [hfault] at hcheck
    simp only [Engine.processFloat, format_of_reachableFor hreachable, hcheck, Engine.outcomeOf]
  · intro hfault
    obtain ⟨hcount, hfull⟩ := (Engine.channelsFault_eq_none_iff _ _).mp hfault
    rw [← format_of_reachableFor hreachable] at hcount
    exact processFloat_of_fits hcount hfull ()

/-- So it is with interleaved samples. -/
theorem screens_processPcm {capture render : StreamFormat} {b : Bypass}
    (hreachable : Engine.ReachableFor capture render (b, ())) (direction : Direction)
    (samples : List Int16) :
    let answer := Engine.processPcm direction samples b ()
    Engine.Screens
      (Engine.samplesFault (direction.formatOf capture render).channelCount samples) samples
      (b, ()) answer (answer.1 = .ok ()) := by
  have hcheck : checkSamples (b.format direction) samples = _ :=
    (Engine.outcomeOf_samplesFault _ samples).symm
  rw [format_of_reachableFor hreachable] at hcheck
  constructor
  · intro code hfault
    rw [hfault] at hcheck
    simp only [Engine.processPcm, format_of_reachableFor hreachable, hcheck, Engine.outcomeOf]
  · intro hfault
    have hlength := (Engine.samplesFault_eq_none_iff _ _).mp hfault
    rw [← format_of_reachableFor hreachable, Nat.mul_comm] at hlength
    exact processPcm_of_fits hlength ()

end Bypass

namespace Native

variable {σ ι : Type} {library : Library σ ι}

/-- The outcome that a status of the library stands for. -/
def outcomeOfStatus (status : Status) : Except EngineError Unit :=
  if status = 0 then .ok () else .error ⟨status⟩

/-- A frame was lent to the library in one call, and what came back is what it answered. -/
structure Lent {F : Type} (library : Library σ ι) (call : Call ι) (status : call.Answer → Status)
    (out : call.Answer → F) (e : NativeEngine library) (s : Session σ ι)
    (answer : Except EngineError Unit × F × NativeEngine library × Session σ ι) : Prop where
  log : answer.2.2.2.log = s.log ++ [call]
  result : answer.1 = outcomeOfStatus (status (library.answer call s.state).1)
  frame : answer.2.1 = out (library.answer call s.state).1
  engine : answer.2.2.1 = e

namespace NativeEngine

/-- Calls leave a native engine with the formats that it was made for. -/
theorem format_of_reachableFor {capture render : StreamFormat} {e : NativeEngine library}
    {s : Session σ ι} (hreachable : Engine.ReachableFor capture render (e, s))
    (direction : Direction) :
    e.format direction = .ofStream (direction.formatOf capture render) := by
  have hformats := History.Reachable.invariant
    (P := fun t : NativeEngine library × Session σ ι =>
      t.1.capture = .ofStream capture ∧ t.1.render = .ofStream render) ?_ ?_ hreachable
  · cases direction
    · exact hformats.1
    · exact hformats.2
  · rintro ⟨e, s⟩ ⟨config, s₀, hcreate⟩
    exact format_of_create hcreate
  · intro op t hformats
    rw [(step_uses op t.1 t.2).1]
    exact hformats

/-- Channel buffers are refused for their fault, and nothing changes. All others are lent to the
library. -/
theorem screens_processFloat {capture render : StreamFormat} {e : NativeEngine library}
    {s : Session σ ι} (hreachable : Engine.ReachableFor capture render (e, s))
    (direction : Direction) (channels : List (List Binary32)) :
    let stream := direction.formatOf capture render
    let answer := Engine.processFloat direction channels e s
    Engine.Screens (Engine.channelsFault stream.channelCount channels) channels (e, s) answer
      (Lent library
        (.processFloat e.ref direction channels (.ofStream stream) (.ofStream stream)) Prod.fst
        (fun reply => reply.2.val) e s answer) := by
  intro stream
  have hformat : e.format direction = .ofStream stream :=
    format_of_reachableFor hreachable direction
  have hcheck : checkChannels (e.format direction) channels = _ :=
    (Engine.outcomeOf_channelsFault _ channels).symm
  rw [hformat, WireFormat.channelCount_ofStream] at hcheck
  constructor
  · intro code hfault
    rw [hfault] at hcheck
    simp only [Engine.processFloat, processFloat, hformat, hcheck, Engine.outcomeOf]
  · intro hfault
    obtain ⟨hcount, hfull⟩ := (Engine.channelsFault_eq_none_iff _ _).mp hfault
    rw [← WireFormat.channelCount_ofStream, ← hformat] at hcount
    rw [← hformat, processFloat_of_fits hcount hfull s]
    exact ⟨rfl, rfl, rfl, rfl⟩

/-- So it is with interleaved samples. -/
theorem screens_processPcm {capture render : StreamFormat} {e : NativeEngine library}
    {s : Session σ ι} (hreachable : Engine.ReachableFor capture render (e, s))
    (direction : Direction) (samples : List Int16) :
    let stream := direction.formatOf capture render
    let length := Int32.ofNat samples.length
    let answer := Engine.processPcm direction samples e s
    Engine.Screens (Engine.samplesFault stream.channelCount samples) samples (e, s) answer
      (Lent library
        (.processPcm e.ref direction samples length (.ofStream stream) (.ofStream stream) length)
        Prod.fst (fun reply => reply.2.val) e s answer) := by
  intro stream length
  have hformat : e.format direction = .ofStream stream :=
    format_of_reachableFor hreachable direction
  have hcheck : checkSamples (e.format direction) samples = _ :=
    (Engine.outcomeOf_samplesFault _ samples).symm
  rw [hformat, WireFormat.channelCount_ofStream] at hcheck
  constructor
  · intro code hfault
    rw [hfault] at hcheck
    simp only [Engine.processPcm, processPcm, hformat, hcheck, Engine.outcomeOf]
  · intro hfault
    have hlength := (Engine.samplesFault_eq_none_iff _ _).mp hfault
    rw [← WireFormat.channelCount_ofStream, ← hformat, Nat.mul_comm] at hlength
    rw [← hformat, processPcm_of_fits hlength s]
    exact ⟨rfl, rfl, rfl, rfl⟩

end NativeEngine

end Native

open Native in
/-- Whatever a bypass engine and a native engine of the same formats have been through, they refuse
the same frames for the same faults, and nothing changes. A frame without a fault succeeds with the
bypass engine; the native engine lends it to the library once and returns its status. -/
theorem engines_refuseAlike {σ ι : Type} {library : Library σ ι} {capture render : StreamFormat}
    {b : Bypass} (hbypass : Engine.ReachableFor capture render (b, ()))
    {e : NativeEngine library} {s : Session σ ι}
    (hnative : Engine.ReachableFor capture render (e, s)) (direction : Direction) :
    let stream := direction.formatOf capture render
    let wire := WireFormat.ofStream stream
    (∀ channels,
      let fault := Engine.channelsFault stream.channelCount channels
      let bypassed := Engine.processFloat direction channels b ()
      let lent := Engine.processFloat direction channels e s
      Engine.Screens fault channels (b, ()) bypassed (bypassed.1 = .ok ()) ∧
      Engine.Screens fault channels (e, s) lent
        (Lent library (.processFloat e.ref direction channels wire wire) Prod.fst
          (fun reply => reply.2.val) e s lent)) ∧
    (∀ samples,
      let fault := Engine.samplesFault stream.channelCount samples
      let length := Int32.ofNat samples.length
      let bypassed := Engine.processPcm direction samples b ()
      let lent := Engine.processPcm direction samples e s
      Engine.Screens fault samples (b, ()) bypassed (bypassed.1 = .ok ()) ∧
      Engine.Screens fault samples (e, s) lent
        (Lent library (.processPcm e.ref direction samples length wire wire length) Prod.fst
          (fun reply => reply.2.val) e s lent)) := by
  constructor
  · intro channels
    exact ⟨Bypass.screens_processFloat hbypass direction channels,
      NativeEngine.screens_processFloat hnative direction channels⟩
  · intro samples
    exact ⟨Bypass.screens_processPcm hbypass direction samples,
      NativeEngine.screens_processPcm hnative direction samples⟩

open Native in
/-- Two engines for stereo capture and mono render are shown three buffers, two of them of the wrong
length, then two buffers of which one is empty, and then a frame, which the library refuses with a
status of its own. Samples for one channel are no frame of the capture stream. -/
theorem engines_refuseAlike_of_ragged :
    ∃ (b : Bypass) (e : NativeEngine (Library.reversing (-7))) (s : Session Unit Unit),
      Engine.ReachableFor ⟨2, by decide⟩ ⟨1, by decide⟩ (b, ()) ∧
      Engine.ReachableFor ⟨2, by decide⟩ ⟨1, by decide⟩ (e, s) ∧
      let full := List.replicate 480 1
      let mono := List.replicate 480 1
      Engine.processFloat .capture [[], full, [2]] b () = (.error ⟨-4⟩, [[], full, [2]], b, ()) ∧
      Engine.processFloat .capture [[], full, [2]] e s = (.error ⟨-4⟩, [[], full, [2]], e, s) ∧
      Engine.processFloat .capture [full, []] b () = (.error ⟨-6⟩, [full, []], b, ()) ∧
      Engine.processFloat .capture [full, []] e s = (.error ⟨-6⟩, [full, []], e, s) ∧
      (Engine.processFloat .capture [full, full] b ()).1 = .ok () ∧
      (Engine.processFloat .capture [full, full] e s).1 = .error ⟨-7⟩ ∧
      Engine.processPcm .capture mono b () = (.error ⟨-6⟩, mono, b, ()) ∧
      Engine.processPcm .capture mono e s = (.error ⟨-6⟩, mono, e, s) := by
  have hbypass : ∃ b : Bypass, Engine.ReachableFor ⟨2, by decide⟩ ⟨1, by decide⟩ (b, ()) :=
    ⟨_, History.Reachable.of_initial Engine.step ⟨{}, (), rfl⟩⟩
  have hnative : ∃ (e : NativeEngine (Library.reversing (-7))) (s : Session Unit Unit),
      Engine.ReachableFor ⟨2, by decide⟩ ⟨1, by decide⟩ (e, s) :=
    ⟨_, _, History.Reachable.of_initial Engine.step ⟨{}, ⟨(), []⟩, rfl⟩⟩
  obtain ⟨b, hbypass⟩ := hbypass
  obtain ⟨e, s, hnative⟩ := hnative
  obtain ⟨hchannels, hsamples⟩ := engines_refuseAlike hbypass hnative .capture
  refine ⟨b, e, s, hbypass, hnative, ?_⟩
  intro full mono
  obtain ⟨hmany, hmany'⟩ := hchannels [[], full, [2]]
  obtain ⟨hempty, hempty'⟩ := hchannels [full, []]
  obtain ⟨hfits, hfits'⟩ := hchannels [full, full]
  obtain ⟨hshort, hshort'⟩ := hsamples mono
  have hfull : full.length = 480 := List.length_replicate
  have hmono : mono.length = 480 := List.length_replicate
  have htooMany : Engine.channelsFault 2 [[], full, [2]] = some (-4) := rfl
  have hunequal : Engine.channelsFault 2 [full, []] = some (-6) := by
    simp [Engine.channelsFault]
  have hnone : Engine.channelsFault 2 [full, full] = none := by
    simp [Engine.channelsFault, hfull]
  have htooFew : Engine.samplesFault 2 mono = some (-6) := by
    simp [Engine.samplesFault, hmono]
  exact ⟨hmany.of_fault _ htooMany, hmany'.of_fault _ htooMany, hempty.of_fault _ hunequal,
    hempty'.of_fault _ hunequal, hfits.of_none hnone, (hfits'.of_none hnone).result,
    hshort.of_fault _ htooFew, hshort'.of_fault _ htooFew⟩

end VoiceProcessing
