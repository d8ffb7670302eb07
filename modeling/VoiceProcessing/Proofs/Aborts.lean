import VoiceProcessing.Proofs.Closed
import VoiceProcessing.Proofs.ToldLengths

/-!
# No call is aborted

There are four points at which a call cannot go on: the number of samples in a frame may not fit a
word, there may be fewer scratch buffers than channels, a frame may not divide evenly into its
channels, and a buffer may not fit the frame that it is to be copied over. No call ever comes to one
of them, whatever has been done before it, however long its frame is, and whatever number of
channels it declares.

The first is out of the question because a stream has less than two to the power of 16 channels.
Against the second, a handle has one scratch buffer for each channel of the wider stream. Frames
that would come to the third are refused, and engines do not change how long a frame is. The native
library is told the number of samples once more, in 32 bits, for which there is room as well.
-/

namespace VoiceProcessing

variable {ε ω : Type}

namespace Handle

/-- A frame that passes the check has the geometry of the stream. -/
theorem geometry_of_checked {format : StreamFormat} {length declared : Nat}
    (hchecked : checkFrame format length declared = .ok (.ok ())) :
    declared = format.channelCount ∧ length = format.frameSamples := by
  rw [checkFrame_eq] at hchecked
  have hverdict := Except.ok.inj hchecked
  split at hverdict
  · cases hverdict
  · split at hverdict
    · cases hverdict
    · omega

/-- The number of samples in a frame fits a word, and 32 bits with a sign. -/
theorem countable_samples (format : StreamFormat) :
    frameLength format.channelCount = .ok (480 * format.channelCount) ∧
      (Int32.ofNat (480 * format.channelCount)).toInt = 480 * format.channelCount := by
  have hsamples : format.frameSamples = 480 * format.channelCount := Nat.mul_comm _ _
  rw [format.frameLength_channelCount, ← hsamples]
  exact ⟨rfl, Native.toInt_frameSamples format⟩

variable [Engine ε ω]

/-- What keeps the calls on a handle from being aborted. -/
structure Unfailing (s : Handle ε × ω) : Prop where
  /-- There is one scratch buffer for each channel of the wider stream. -/
  scratch : s.1.channels.length = max s.1.capture.channelCount s.1.render.channelCount
  /-- The number of samples in a frame fits a word, and 32 bits with a sign. -/
  countable (direction : Direction) :
    let count := (s.1.format direction).channelCount
    frameLength count = .ok (480 * count) ∧ (Int32.ofNat (480 * count)).toInt = 480 * count
  /-- The check of a frame comes to a verdict. -/
  checked (direction : Direction) (length declared : Nat) :
    ∃ verdict, checkFrame (s.1.format direction) length declared = .ok verdict
  /-- A frame of numbers that passes the check finds a buffer for each of its channels, and is dealt
  out to them evenly. -/
  dealt (direction : Direction) (frame : List Binary32) (declared : Nat) :
    checkFrame (s.1.format direction) frame.length declared = .ok (.ok ()) →
      ∃ buffers, s.1.lend declared = .ok buffers ∧ buffers.length = declared ∧
        declared ∣ frame.length ∧ deinterleave frame buffers = .ok (split declared frame)
  /-- What the engine leaves of a frame of 16-bit samples can be copied over it. -/
  copied (direction : Direction) (frame : List Int16) (engine : ε) :
    let samples := (Engine.processPcm direction frame engine s.2).2.1
    samples.length = frame.length ∧ copyBack frame samples = .ok samples
  /-- A frame of numbers is answered. -/
  takesFloat (direction : Direction) (frame : List Binary32) (declared : Nat) :
    ∃ answer, s.1.processFloat direction frame declared s.2 = .ok answer
  /-- A frame of 16-bit samples is answered. -/
  takesPcm (direction : Direction) (frame : List Int16) (declared : Nat) :
    ∃ answer, s.1.processPcm direction frame declared s.2 = .ok answer
  /-- No call of any list is aborted. -/
  completes (ops : List Op) (fault : Fault) : .fault fault ∉ (run ops s).1

variable [LawfulEngine ε ω]

/-- A reachable handle has one scratch buffer for each channel of the wider stream. -/
theorem Reachable.length_channels {s : Handle ε × ω} (hreachable : Reachable s) :
    s.1.channels.length = max s.1.capture.channelCount s.1.render.channelCount := by
  obtain ⟨⟨h, world'⟩, ops, ⟨config, world, hcreate⟩, rfl⟩ := hreachable
  obtain ⟨hscratch, -⟩ := ready_of_create hcreate
  obtain ⟨_, _, _, -, rfl, -⟩ := exists_of_create hcreate
  -- Creation makes that many buffers, and no history changes their number or the formats.
  have hgeometry := geometry_after hscratch ops
  simp only [geometry, Prod.mk.injEq] at hgeometry
  obtain ⟨hcapture, hrender, hchannels⟩ := hgeometry
  rw [hchannels, hcapture, hrender]
  exact List.length_replicate

omit [LawfulEngine ε ω] in
/-- With enough scratch a frame of numbers is answered. -/
theorem HasScratch.takesFloat {h : Handle ε} (hscratch : h.HasScratch) (direction : Direction)
    (frame : List Binary32) (declared : Nat) (world : ω) :
    ∃ answer, h.processFloat direction frame declared world = .ok answer := by
  cases hrefusal : h.refusal direction frame.length declared with
  | some e => exact ⟨_, processFloat_of_refused hrefusal world⟩
  | none =>
    obtain ⟨⟨engine, hopen⟩, -, -⟩ := open_of_refusal_eq_none hrefusal
    exact ⟨_, processFloat_of_accepted hscratch hopen hrefusal world⟩

/-- A frame of 16-bit samples is answered. -/
theorem takesPcm (h : Handle ε) (direction : Direction) (frame : List Int16) (declared : Nat)
    (world : ω) : ∃ answer, h.processPcm direction frame declared world = .ok answer := by
  cases hrefusal : h.refusal direction frame.length declared with
  | some e => exact ⟨_, processPcm_of_refused hrefusal world⟩
  | none =>
    obtain ⟨⟨engine, hopen⟩, -, -⟩ := open_of_refusal_eq_none hrefusal
    exact ⟨_, processPcm_of_accepted hopen hrefusal world⟩

/-- With enough scratch no call is aborted. -/
theorem HasScratch.completes {h : Handle ε} (hscratch : h.HasScratch) (op : Op) (world : ω)
    (fault : Fault) : (step op (h, world)).1 ≠ .fault fault := by
  intro hfault
  cases op with
  | processFloat direction frame declared =>
    obtain ⟨answer, hcall⟩ := hscratch.takesFloat direction frame declared world
    simp only [step, hcall] at hfault
    cases hfault
  | processPcm direction frame declared =>
    obtain ⟨answer, hcall⟩ := h.takesPcm direction frame declared world
    simp only [step, hcall] at hfault
    cases hfault
  | _ => cases hfault

/-- Calls on a reachable handle are not aborted. -/
theorem Reachable.unfailing {s : Handle ε × ω} (hreachable : Reachable s) : Unfailing s where
  scratch := hreachable.length_channels
  countable direction := countable_samples (s.1.format direction)
  checked direction length declared := ⟨_, checkFrame_eq (s.1.format direction) length declared⟩
  dealt direction frame declared hchecked := by
    obtain ⟨rfl, hlength⟩ := geometry_of_checked hchecked
    exact hreachable.hasScratch.dealt hlength
  copied direction frame engine :=
    have hlength := LawfulEngine.length_processPcm direction frame engine s.2
    ⟨hlength, if_pos hlength⟩
  takesFloat direction frame declared :=
    hreachable.hasScratch.takesFloat direction frame declared s.2
  takesPcm direction frame declared := s.1.takesPcm direction frame declared s.2
  completes ops fault := by
    intro hmem
    exact History.forall_mem_run step (Q := fun reply => reply ≠ .fault fault)
      (fun op s (hs : Reachable s) => hs.hasScratch.completes op s.2 fault)
      (fun op s hs => hs.later step [op]) ops hreachable _ hmem rfl

end Handle

namespace Processor

variable [Engine ε ω]

/-- What keeps the calls on a processor from being aborted. -/
structure Unfailing (s : Processor ε × ω) : Prop where
  /-- Calls on the handle inside are not aborted. -/
  handle : Handle.Unfailing (inner s)
  /-- No call of any list is aborted. -/
  completes (ops : List Op) (fault : Fault) : .fault fault ∉ (run ops s).1

/-- A processor is aborted only with its handle. -/
theorem answer_ne_fault (op : Op) (closed : Bool) {reply : Handle.Reply} {fault : Fault}
    (hreply : reply ≠ .fault fault) : op.answer closed reply ≠ .fault fault := by
  intro hanswer
  cases reply with
  | fault other => cases op <;> cases hanswer <;> exact hreply rfl
  | _ => cases op <;> cases hanswer

variable [LawfulEngine ε ω]

/-- Calls on a reachable processor are not aborted. -/
theorem Reachable.unfailing {s : Processor ε × ω} (hreachable : Reachable s) : Unfailing s where
  handle := hreachable.inner.unfailing
  completes ops fault := by
    have hanswers (op : Op) (s : Processor ε × ω) (hs : Reachable s) :
        (step op s).1 ≠ .fault fault := by
      have hcounts (direction : Direction) :
          (s.1.handle.format direction).channelCount = s.1.counts direction := rfl
      rw [(step_parts hcounts op s.2).1]
      exact answer_ne_fault op _ (hs.inner.hasScratch.completes _ s.2 fault)
    intro hmem
    exact History.forall_mem_run step (Q := fun reply => reply ≠ .fault fault) hanswers
      (fun op s hs => hs.later step [op]) ops hreachable _ hmem rfl

end Processor

namespace Boundary.Variable

variable [Engine ε ω]

/-- What keeps the calls on a variable that refers to a handle from being aborted: the status that
reports an abort is then only reported if the engine has reported it. -/
structure Unfailing (h : Handle ε) (world : ω) : Prop where
  /-- Calls on the handle are not aborted. -/
  handle : Handle.Unfailing (h, world)
  /-- A frame of numbers is answered by the handle. -/
  takesFloat (direction : Direction) (frame : Option (List Binary32)) (channels : Int32) :
    ∃ result out h' world',
      h.processFloat direction (frame.getD []) (declaredCount channels) world =
        .ok (result, out, h', world') ∧
      step (.processFloat direction frame channels) (some h, world) =
        (.float (statusOf result) (frame.map fun _ => out), some h', world')
  /-- A frame of 16-bit samples is answered by the handle. -/
  takesPcm (direction : Direction) (frame : Option (List Int16)) (channels : Int32) :
    ∃ result out h' world',
      h.processPcm direction (frame.getD []) (declaredCount channels) world =
        .ok (result, out, h', world') ∧
      step (.processPcm direction frame channels) (some h, world) =
        (.pcm (statusOf result) (frame.map fun _ => out), some h', world')

/-- Calls on a reachable variable are not aborted. -/
theorem Reachable.unfailing [LawfulEngine ε ω] {h : Handle ε} {world : ω}
    (hreachable : Reachable (some h, world)) : Unfailing h world where
  handle := hreachable.handle.unfailing
  takesFloat direction frame channels := by
    obtain ⟨⟨result, out, h', world'⟩, hcall⟩ := hreachable.handle.hasScratch.takesFloat direction
      (frame.getD []) (declaredCount channels) world
    refine ⟨result, out, h', world', hcall, ?_⟩
    simp only [step, processFloat, hcall]
  takesPcm direction frame channels := by
    obtain ⟨⟨result, out, h', world'⟩, hcall⟩ :=
      h.takesPcm direction (frame.getD []) (declaredCount channels) world
    refine ⟨result, out, h', world', hcall, ?_⟩
    simp only [step, processPcm, hcall]

end Boundary.Variable

open Native in
/-- On every engine, nothing that can have been done to a handle, a processor or a handle variable
lets a call on it be aborted. On the native engine, the lengths that the library has been told in
the meantime were those of the buffers. -/
theorem calls_areNeverAborted :
    (∀ {ε ω : Type} [Engine ε ω] [LawfulEngine ε ω],
      (∀ s : Handle ε × ω, Handle.Reachable s → Handle.Unfailing s) ∧
      (∀ s : Processor ε × ω, Processor.Reachable s → Processor.Unfailing s) ∧
      ∀ (h : Handle ε) (world : ω), Boundary.Variable.Reachable (some h, world) →
        Boundary.Variable.Unfailing h world) ∧
    ∀ {σ ι : Type} (library : Library σ ι) (s : Session σ ι),
      (∀ config ops, ToldSince s (Handle.worldDuring (NativeEngine library) config ops s)) ∧
      (∀ config ops, ToldSince s (Processor.worldDuring (NativeEngine library) config ops s)) ∧
      ∀ record place ops,
        ToldSince s (Boundary.Variable.worldDuring (NativeEngine library) record place ops s) := by
  constructor
  · intro ε ω _ _
    exact ⟨fun _ hreachable => hreachable.unfailing, fun _ hreachable => hreachable.unfailing,
      fun _ _ hreachable => hreachable.unfailing⟩
  · intro σ ι library s
    exact ⟨fun config ops => toldSince_handle config ops s,
      fun config ops => toldSince_processor config ops s,
      fun record place ops => toldSince_variable record place ops s⟩

open Native in
/-- With the most channels that a stream can have, a frame has some 31 million samples, and there is
a scratch buffer for each channel. A frame that declares as many channels as a word can count is
answered, by the handle and, where minus one stands for that many, by the variable. -/
theorem calls_areNeverAborted_of_most :
    let config : Config := { captureChannels := 65535 }
    let record : Boundary.ConfigRecord :=
      { Boundary.ConfigRecord.default with captureChannels := 65535 }
    (∃ h : Handle Bypass, Handle.create config () = (.ok h, ()) ∧ h.channels.length = 65535 ∧
      frameLength 65535 = .ok 31456800 ∧
      ∃ answer, h.processFloat .capture [1, 2, 3] (wordLimit - 1) () = .ok answer) ∧
    (∃ p : Processor Bypass, Processor.create config () = (.ok p, ()) ∧
      ∀ ops fault, .fault fault ∉ (Processor.run ops (p, ())).1) ∧
    ∃ (h : Handle (NativeEngine (Library.reversing Status.internal))) (s : Session Unit Unit),
      Boundary.Variable.create record none ⟨(), []⟩ = ((some h, none), s) ∧
      ∃ result out h' s', h.processPcm .render [1, 2, 3] (wordLimit - 1) s =
          .ok (result, out, h', s') ∧
        Boundary.Variable.step (.processPcm .render (some [1, 2, 3]) (-1)) (some h, s) =
          (.pcm (Boundary.statusOf result) (some out), some h', s') := by
  intro config record
  refine ⟨?_, ?_, ?_⟩
  · obtain ⟨h, hcreate, hcapture, hrender⟩ :
        ∃ h : Handle Bypass, Handle.create config () = (.ok h, ()) ∧
          h.capture.channelCount = 65535 ∧ h.render.channelCount = 1 := ⟨_, rfl, rfl, rfl⟩
    have hunfailing := calls_areNeverAborted.1.1 (h, ())
      (History.Reachable.of_initial Handle.step ⟨config, (), hcreate⟩)
    have hscratch : h.channels.length = max h.capture.channelCount h.render.channelCount :=
      hunfailing.scratch
    have hcountable := (hunfailing.countable .capture).1
    simp only [Handle.format, hcapture] at hcountable
    rw [hcapture, hrender] at hscratch
    exact ⟨h, hcreate, hscratch, hcountable, hunfailing.takesFloat .capture [1, 2, 3] _⟩
  · obtain ⟨p, hmade⟩ : ∃ p : Processor Bypass, Processor.create config () = (.ok p, ()) :=
      ⟨_, rfl⟩
    have hunfailing := calls_areNeverAborted.1.2.1 (p, ())
      (History.Reachable.of_initial Processor.step ⟨config, (), hmade⟩)
    exact ⟨p, hmade, hunfailing.completes⟩
  · obtain ⟨h, s, hmade⟩ :
        ∃ (h : Handle (NativeEngine (Library.reversing Status.internal))) (s : Session Unit Unit),
          Boundary.Variable.create record none ⟨(), []⟩ = ((some h, none), s) := ⟨_, _, rfl⟩
    have hunfailing := calls_areNeverAborted.1.2.2 h s
      (History.Reachable.of_initial Boundary.Variable.step ⟨record, none, _, none, hmade⟩)
    exact ⟨h, s, hmade, hunfailing.takesPcm .render (some [1, 2, 3]) (-1)⟩

end VoiceProcessing
