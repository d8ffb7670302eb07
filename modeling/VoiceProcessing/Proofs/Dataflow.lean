import VoiceProcessing.Proofs.EngineGeometry

/-!
# How samples flow through a handle

A frame that an open handle accepts reaches the engine once. A frame of numbers reaches it as the
channels that it holds, and is afterwards the frame that holds what the engine left in their place.
A frame of 16-bit samples reaches it as it is, and is afterwards what the engine left.

The engine may leave any samples whatever, and the other direction may have any number of channels.
-/

namespace VoiceProcessing

variable {ε ω : Type} [Engine ε ω]

/-- If the engine succeeds, the frame is replaced. -/
theorem Handle.settle_of_succeeded {F : Type} (direction : Direction) (frame out : F)
    (h : Handle ε) {result : Except EngineError Unit} (hsucceeded : result = .ok ()) (s : ε × ω) :
    ∃ s', h.settle direction frame out result s = (.ok (), out, s') := by
  subst hsucceeded
  exact ⟨_, rfl⟩

/-- A sample of reversed channels is the sample at the mirrored time. -/
theorem getElem?_getElem?_reverse {A : Type} {channels : List (List A)} {n : Nat}
    (hfull : ∀ channel ∈ channels, channel.length = n) {i : Nat} (hi : i < n) (k : Nat) :
    (channels.map List.reverse)[k]?.bind (·[i]?) = channels[k]?.bind (·[n - 1 - i]?) := by
  rw [List.getElem?_map]
  cases hchannel : channels[k]? with
  | none => rfl
  | some channel =>
    have hlength := hfull channel (List.mem_of_getElem? hchannel)
    subst hlength
    exact List.getElem?_reverse hi

/-- A frame that fits the stream reaches the engine once, laid out in channels or as it is, and if
the engine succeeds, the caller's frame is what the engine left, laid out in the same way. -/
theorem frames_flowThroughEngine [LawfulEngine ε ω] {h : Handle ε} {world : ω}
    (hreachable : Handle.Reachable (h, world)) {engine : ε} (hopen : h.engine = some engine)
    (direction : Direction) :
    let count := (h.format direction).channelCount
    (∀ frame : List Binary32, frame.length = count * 480 →
      ∃ channels, LaidOut count 480 channels frame ∧
        let answer := Engine.processFloat direction channels engine world
        Handle.engineCalls (.processFloat direction frame count) (h, world) =
          .processFloat direction channels :: Handle.followUp direction answer.1 ∧
        (answer.1 = .ok () → ∃ out s',
          h.processFloat direction frame count world = .ok (.ok (), out, s') ∧
            LaidOut count 480 answer.2.1 out)) ∧
    (∀ frame : List Int16, frame.length = count * 480 →
      let answer := Engine.processPcm direction frame engine world
      Handle.engineCalls (.processPcm direction frame count) (h, world) =
        .processPcm direction frame :: Handle.followUp direction answer.1 ∧
      (answer.1 = .ok () → ∃ s',
        h.processPcm direction frame count world = .ok (.ok (), answer.2.1, s'))) := by
  have hscratch := hreachable.hasScratch
  constructor
  · intro frame hlength
    have haccepted : h.refusal direction frame.length (h.format direction).channelCount = none :=
      Handle.refusal_eq_none hopen rfl hlength
    have hlaid := laidOut_split hlength
    refine ⟨_, hlaid, Handle.engineCalls_processFloat_of_accepted hscratch hopen haccepted world,
      ?_⟩
    intro hsucceeded
    have hpass : ∃ s', h.passFloat direction frame engine world = (.ok (), _, s') :=
      Handle.settle_of_succeeded direction frame _ _ hsucceeded _
    obtain ⟨s', hpass⟩ := hpass
    refine ⟨_, s', ?_, hlaid.overwrite (LawfulEngine.lengths_processFloat direction _ engine world)⟩
    rw [Handle.processFloat_of_accepted hscratch hopen haccepted, hpass]
  · intro frame hlength
    have haccepted : h.refusal direction frame.length (h.format direction).channelCount = none :=
      Handle.refusal_eq_none hopen rfl hlength
    refine ⟨Handle.engineCalls_processPcm_of_accepted hscratch hopen haccepted world, ?_⟩
    intro hsucceeded
    have hpass : ∃ s', h.passPcm direction frame engine world = (.ok (), _, s') :=
      Handle.settle_of_succeeded direction frame _ _ hsucceeded _
    obtain ⟨s', hpass⟩ := hpass
    refine ⟨s', ?_⟩
    rw [Handle.processPcm_of_accepted hopen haccepted, hpass]

open Native in
/-- A library that reverses what it is lent reverses each channel on its own: of a stereo frame,
left and right samples change their order but not their sides. The render stream of the handle has
one channel only. -/
theorem frames_flowThroughEngine_of_reversing :
    ∃ (h : Handle (NativeEngine (Library.reversing Status.ok))) (s : Session Unit Unit)
        (e : NativeEngine (Library.reversing Status.ok)),
      Handle.Reachable (h, s) ∧ h.engine = some e ∧ (h.format .render).channelCount = 1 ∧
      ∃ s', h.processFloat .capture ((List.range 960).map Binary.ofBits) 2 s =
        .ok (.ok (),
          (List.range 960).map fun j => Binary.ofBits ((479 - j / 2) * 2 + j % 2), s') := by
  obtain ⟨h, s, e, hcreate, hopen, hformat, hrender, hcapture⟩ :
      ∃ (h : Handle (NativeEngine (Library.reversing Status.ok))) (s : Session Unit Unit)
          (e : NativeEngine (Library.reversing Status.ok)),
        Handle.create { captureChannels := 2 } ⟨(), []⟩ = (.ok h, s) ∧ h.engine = some e ∧
        (e.format .capture).channelCount = 2 ∧ (h.format .render).channelCount = 1 ∧
        (h.format .capture).channelCount = 2 := ⟨_, _, _, rfl, rfl, rfl, rfl, rfl⟩
  have hreachable : Handle.Reachable (h, s) :=
    History.Reachable.of_initial Handle.step ⟨_, _, hcreate⟩
  refine ⟨h, s, e, hreachable, hopen, hrender, ?_⟩
  have hflow := (frames_flowThroughEngine hreachable hopen .capture).1
    ((List.range 960).map Binary.ofBits)
  rw [hcapture] at hflow
  obtain ⟨channels, hlaid, -, hanswer⟩ := hflow (by rw [List.length_map, List.length_range])
  rw [NativeEngine.processFloat_of_fits (hlaid.length_channels.trans hformat.symm)
    hlaid.length_channel] at hanswer
  obtain ⟨out, s', hcall, hout⟩ := hanswer rfl
  have hreversed : LaidOut 2 480 (channels.map List.reverse) out := hout
  have hsame : out =
      (List.range 960).map fun j => Binary.ofBits ((479 - j / 2) * 2 + j % 2) := by
    apply List.ext_getElem?
    intro j
    by_cases hj : j < 960
    · have hj' : (479 - j / 2) * 2 + j % 2 < 960 := by omega
      have hleft := hreversed.place (j % 2) (by omega) (j / 2) (by omega)
      have hright := hlaid.place (j % 2) (by omega) (479 - j / 2) (by omega)
      rw [getElem?_getElem?_reverse hlaid.length_channel (by omega), ← hright] at hleft
      rw [Nat.div_add_mod'] at hleft
      rw [hleft, List.getElem?_map, List.getElem?_map, List.getElem?_range hj',
        List.getElem?_range hj]
      rfl
    · rw [List.getElem?_eq_none, List.getElem?_eq_none]
      · rw [List.length_map, List.length_range]
        omega
      · rw [hreversed.length_frame]
        omega
  rw [hcall, hsame]
  exact ⟨s', rfl⟩

end VoiceProcessing
