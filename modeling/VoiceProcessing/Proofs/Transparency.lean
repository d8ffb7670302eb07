import VoiceProcessing.Proofs.Interchange

/-!
# Transparency

Around an engine that leaves frames as they are, everything else leaves them as they are, too. A
frame of numbers is dealt out to channels, passed through scratch that still holds other frames, and
put together again; a frame of 16-bit samples is copied to scratch and back. Neither changes a
single bit, for any number of channels and whatever the samples stand for. Only a processor, which
converts 16-bit samples to numbers and back, gives back what becomes of each of them in that way.

This holds on every obedient engine, and so on the bypass engine.
-/

namespace VoiceProcessing

variable {ε ω : Type} [Engine ε ω]

namespace Handle

/-- Every frame that fits the channel counts is accepted in its direction, and is afterwards what it
was before. -/
structure Transparent (counts : Direction → Nat) (s : Handle ε × ω) : Prop where
  float (direction : Direction) (frame : List Binary32) :
    frame.length = 480 * counts direction →
      ∃ t, s.1.processFloat direction frame (counts direction) s.2 = .ok (.ok (), frame, t)
  pcm (direction : Direction) (frame : List Int16) :
    frame.length = 480 * counts direction →
      ∃ t, s.1.processPcm direction frame (counts direction) s.2 = .ok (.ok (), frame, t)

variable [LawfulEngine ε ω]

/-- On an obedient engine, a handle is transparent as long as it is open. -/
theorem transparent_after (hobedient : Engine.Obedient ε) {config : Config} {world₀ world : ω}
    {h : Handle ε} (hcreate : create config world₀ = (.ok h, world)) {ops : List Op}
    (hopen : (History.after step ops (h, world)).1.isClosed = false) :
    Transparent config.channelCount (History.after step ops (h, world)) := by
  obtain ⟨hreachable, -, hcounts⟩ := after_create hcreate ops
  obtain ⟨engine, hengine⟩ := exists_engine hopen
  have hobeys := hobedient.obeys hreachable engine hengine
  have hframe {direction : Direction} {length : Nat}
      (hlength : length = 480 * config.channelCount direction) :
      length = ((History.after step ops (h, world)).1.format direction).frameSamples := by
    rw [hlength, ← hcounts direction]
    exact Nat.mul_comm _ _
  refine ⟨?_, ?_⟩
  · intro direction frame hlength
    obtain ⟨hresult, hout⟩ := hobeys.passFloat (hframe hlength)
    have haccepted := refusal_eq_none hengine (hcounts direction).symm (hframe hlength)
    rw [processFloat_of_accepted hreachable.hasScratch hengine haccepted]
    exact ⟨_, congrArg Except.ok (Prod.ext hresult (Prod.ext hout rfl))⟩
  · intro direction frame hlength
    obtain ⟨hresult, hout⟩ := hobeys.passPcm (hframe hlength)
    have haccepted := refusal_eq_none hengine (hcounts direction).symm (hframe hlength)
    rw [processPcm_of_accepted hengine haccepted]
    exact ⟨_, congrArg Except.ok (Prod.ext hresult (Prod.ext hout rfl))⟩

end Handle

namespace Processor

/-- The processed copy of every capture frame that fits the channel counts is the frame, and that of
a 16-bit frame has each sample converted to a number and back. -/
structure Transparent (counts : Direction → Nat) (s : Processor ε × ω) : Prop where
  captured (frame : List Binary32) : frame.length = 480 * counts .capture →
    ∃ t, s.1.processCapture frame s.2 = .ok (.ok frame, t)
  capturedPcm (frame : List Int16) : frame.length = 480 * counts .capture →
    ∃ t, s.1.processCapturePcm frame s.2 =
      .ok (.ok (frame.map fun sample => Pcm.encode (Pcm.decode sample)), t)

/-- A processor is as transparent as its handle. -/
theorem transparent_of_inner {counts : Direction → Nat} {s : Processor ε × ω}
    (hcount : (s.1.handle.format .capture).channelCount = counts .capture)
    (hinner : Handle.Transparent counts (inner s)) : Transparent counts s := by
  have hcaptured (frame : List Binary32) (hlength : frame.length = 480 * counts .capture) :
      ∃ t, s.1.processCapture frame s.2 = .ok (.ok frame, t) := by
    obtain ⟨t, hcall⟩ := hinner.float .capture frame hlength
    simp only [inner] at hcall
    simp only [processCapture, process, hcount, hcall]
    exact ⟨_, rfl⟩
  refine ⟨hcaptured, ?_⟩
  intro frame hlength
  obtain ⟨t, hcall⟩ := hcaptured (Pcm.decodeFrame frame) (by rwa [Pcm.decodeFrame, List.length_map])
  rw [processCapture] at hcall
  simp only [processCapturePcm, hcall]
  refine ⟨t, congrArg (fun copy => Except.ok (Except.ok copy, t)) ?_⟩
  rw [Pcm.encodeFrame, Pcm.decodeFrame, List.map_map]
  rfl

variable [LawfulEngine ε ω]

/-- On an obedient engine, a processor is transparent as long as it is open. -/
theorem transparent_after (hobedient : Engine.Obedient ε) {config : Config} {world₀ world : ω}
    {p : Processor ε} (hmade : create config world₀ = (.ok p, world)) {ops : List Op}
    (hopen : (History.after step ops (p, world)).1.isClosed = false) :
    Transparent config.channelCount (History.after step ops (p, world)) := by
  obtain ⟨h, hcreate, rfl⟩ := exists_of_create hmade
  have hinner := inner_after (s := (⟨h, config⟩, world))
    (Handle.channelCount_format_of_create hcreate) (Handle.ready_of_create hcreate).1 ops
  let translated := ops.map (Op.onHandle config.channelCount)
  have hcounts := (Handle.after_create hcreate translated).2.2 .capture
  have hhandle : (History.after step ops ((⟨h, config⟩ : Processor ε), world)).1.handle =
      (History.after Handle.step translated (h, world)).1 := congrArg Prod.fst hinner
  apply transparent_of_inner
  · rw [hhandle]
    exact hcounts
  · rw [hinner]
    apply Handle.transparent_after hobedient hcreate
    rw [isClosed, hhandle] at hopen
    exact hopen

end Processor

/-- Handles and processors on the bypass engine can be made for all channel counts that are not
zero, and are transparent until they are closed, whatever has been done with them. -/
theorem bypass_isTransparent (config : Config) (hcapture : config.captureChannels ≠ 0)
    (hrender : config.renderChannels ≠ 0) :
    (∃ h : Handle Bypass, Handle.create config () = (.ok h, ()) ∧
      ∀ ops, (History.after Handle.step ops (h, ())).1.isClosed = false →
        Handle.Transparent config.channelCount (History.after Handle.step ops (h, ()))) ∧
    ∃ p : Processor Bypass, Processor.create config () = (.ok p, ()) ∧
      ∀ ops, (History.after Processor.step ops (p, ())).1.isClosed = false →
        Processor.Transparent config.channelCount (History.after Processor.step ops (p, ())) := by
  obtain ⟨h, hcreate⟩ : ∃ h : Handle Bypass, Handle.create config () = (.ok h, ()) :=
    ⟨_, Handle.create_of_ne_zero hcapture hrender ()⟩
  have hmade := Processor.create_of_handle hcreate
  refine ⟨⟨h, hcreate, ?_⟩, ⟨_, hmade, ?_⟩⟩
  · intro ops hopen
    exact Handle.transparent_after Bypass.obedient hcreate hopen
  · intro ops hopen
    exact Processor.transparent_after Bypass.obedient hmade hopen

/-- A stereo frame of negative values that are not numbers, with bits of their own, comes back to
the bit, also after another frame has gone through the same scratch. The lowest 16-bit sample comes
back from a processor one step higher. -/
theorem bypass_isTransparent_of_stereo :
    let config : Config := { captureChannels := 2 }
    let frame : List Binary32 := List.replicate 960 (Binary.ofBits 0xFFC12345)
    let lowest : List Int16 := List.replicate 960 (-32768)
    let before : List Handle.Op :=
      [.processFloat .capture (List.replicate 960 1) 2, .setAnalogLevel 7]
    (∃ h : Handle Bypass, Handle.create config () = (.ok h, ()) ∧
      ∃ t, (History.after Handle.step before (h, ())).1.processFloat .capture frame 2 () =
        .ok (.ok (), frame, t)) ∧
    ∃ p : Processor Bypass, Processor.create config () = (.ok p, ()) ∧
      ∃ t, p.processCapturePcm lowest () = .ok (.ok (List.replicate 960 (-32767)), t) := by
  intro config frame lowest before
  have hcount : config.channelCount .capture = 2 := rfl
  have hopen {h : Handle Bypass} (hcreate : Handle.create config () = (.ok h, ()))
      {ops : List Handle.Op} (hops : .destroy ∉ ops) :
      (History.after Handle.step ops (h, ())).1.isClosed = false :=
    Bool.eq_false_iff.mpr (mt (Handle.after_create hcreate ops).2.1.mp hops)
  obtain ⟨⟨h, hcreate, hhandle⟩, p, hmade, hprocessor⟩ :=
    bypass_isTransparent config (by decide) (by decide)
  refine ⟨⟨h, hcreate, ?_⟩, p, hmade, ?_⟩
  · have hbefore : .destroy ∉ before := by
      simp only [before, List.mem_cons, List.not_mem_nil, reduceCtorEq, or_self, not_false_eq_true]
    have hframe := (hhandle before (hopen hcreate hbefore)).float .capture frame
    rw [hcount] at hframe
    exact hframe List.length_replicate
  · obtain ⟨h', hcreate', rfl⟩ := Processor.exists_of_create hmade
    have hlowest := (hprocessor [] (hopen hcreate' List.not_mem_nil)).capturedPcm lowest
      List.length_replicate
    have hsample : Pcm.encode (Pcm.decode (-32768)) = -32767 := by decide +kernel
    rw [List.map_replicate, hsample] at hlowest
    exact hlowest

end VoiceProcessing
