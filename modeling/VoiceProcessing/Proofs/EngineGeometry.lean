import VoiceProcessing.Bypass.Engine
import VoiceProcessing.Proofs.NativeCalls
import VoiceProcessing.Proofs.Recording

/-!
# The geometry checks of the engines

Both engines check frames on their own, against formats of their own. These are the formats of the
handle, in every reachable state, so that a frame which the handle has let pass never fails the
check of its engine: the bypass engine then succeeds, and the native engine makes its one call on
the library and reports what that call reports.

The numbers that cross to the library are 32 bits wide. Channel counts and lengths of frames fit.
-/

namespace VoiceProcessing

/-- Whether a call is about a frame. -/
def Engine.Op.isFrame : Engine.Op → Bool
  | .processFloat _ _ | .processPcm _ _ => true
  | _ => false

namespace Bypass

/-- What does not change when a bypass engine takes note of a frame, no call about a frame changes,
whether the frame is accepted or not. -/
theorem kept_of_isFrame {A : Type} (observed : Bypass → A)
    (hkept : ∀ b direction power, observed (b.observe direction power) = observed b)
    {op : Engine.Op} (hframe : op.isFrame = true) (s : Bypass × Unit) :
    observed (Engine.step op s).2.1 = observed s.1 := by
  cases op with
  | processFloat direction channels =>
    simp only [Engine.step, Engine.processFloat]
    cases checkChannels (s.1.format direction) channels with
    | error e => rfl
    | ok _ => exact hkept s.1 direction _
  | processPcm direction samples =>
    simp only [Engine.step, Engine.processPcm]
    cases checkSamples (s.1.format direction) samples with
    | error e => rfl
    | ok _ => exact hkept s.1 direction _
  | _ => cases hframe

/-- Taking note of a frame does not change the formats. -/
theorem format_observe (b : Bypass) (direction : Direction) (power : Binary64) :
    (b.observe direction power).format = b.format := by
  cases direction <;> rfl

/-- No operation changes the formats of a bypass engine. -/
theorem format_step (op : Engine.Op) (b : Bypass) (world : Unit) :
    (Engine.step op (b, world)).2.1.format = b.format := by
  cases op with
  | processFloat _ _ | processPcm _ _ => exact kept_of_isFrame format format_observe rfl (b, world)
  | hint hint => cases hint <;> rfl
  | reset | applyConfig _ | statistics | delayMs | recommendedLevel => rfl

/-- The formats of a bypass engine are those of its handle. -/
theorem format_of_reachable {h : Handle Bypass} {world : Unit}
    (hreachable : Handle.Reachable (h, world)) {b : Bypass} (hopen : h.engine = some b) :
    b.format = h.format := by
  have hformats := hreachable.engine_invariant
    (P := fun capture render s => s.1.format .capture = capture ∧ s.1.format .render = render)
    ?_ ?_ hopen
  · funext direction
    cases direction
    · exact hformats.1
    · exact hformats.2
  · intro config capture render world b world' hmade
    cases hmade
    exact ⟨rfl, rfl⟩
  · intro op capture render s hkept
    rw [format_step op s.1 s.2]
    exact hkept

/-- Channels of the right number and length pass the check. -/
theorem processFloat_of_fits {b : Bypass} {direction : Direction} {channels : List (List Binary32)}
    (hcount : channels.length = (b.format direction).channelCount)
    (hfull : ∀ channel ∈ channels, channel.length = samplesPerFrame) (world : Unit) :
    (Engine.processFloat direction channels b world).1 = .ok () := by
  have hany : ¬(channels.any (·.length ≠ samplesPerFrame)) = true := by
    simpa using hfull
  simp only [Engine.processFloat, checkChannels, if_neg (not_not_intro hcount), if_neg hany]

/-- Samples of the right number pass the check. -/
theorem processPcm_of_fits {b : Bypass} {direction : Direction} {samples : List Int16}
    (hlength : samples.length = (b.format direction).frameSamples) (world : Unit) :
    (Engine.processPcm direction samples b world).1 = .ok () := by
  simp only [Engine.processPcm, checkSamples, if_neg (not_not_intro hlength)]

end Bypass

namespace Native

/-- The rate and the channel count of a stream reach the library as they are. -/
theorem WireFormat.toInt_ofStream (s : StreamFormat) :
    (ofStream s).sampleRateHz.toInt = 48000 ∧ (ofStream s).channels.toInt = s.channelCount := by
  refine ⟨rfl, Int32.toInt_ofNat_of_lt ?_⟩
  have hlt := s.channelCount_lt
  omega

/-- The channel count of a stream is read back from its wire form. -/
theorem WireFormat.channelCount_ofStream (s : StreamFormat) :
    (ofStream s).channelCount = s.channelCount := by
  have hlt := s.channelCount_lt
  exact Int32.toNatClampNeg_ofNat_of_lt (by omega)

/-- The number of samples in a frame reaches the library as it is. -/
theorem toInt_frameSamples (s : StreamFormat) :
    (Int32.ofNat s.frameSamples).toInt = 480 * (s.channelCount : Int) := by
  have hlt := s.channelCount_lt
  have hsamples : s.frameSamples = s.channelCount * 480 := rfl
  rw [hsamples, Int32.toInt_ofNat_of_lt (by omega)]
  omega

namespace NativeEngine

variable {σ ι : Type} {library : Library σ ι}

/-- A native engine has the formats that it was made for, in the form that the library takes. -/
theorem format_of_create {config : Config} {capture render : StreamFormat} {s s' : Session σ ι}
    {e : NativeEngine library} (hmade : Engine.create config capture render s = (.ok e, s')) :
    e.capture = .ofStream capture ∧ e.render = .ofStream render := by
  cases hanswer : (library.answer (.create (.ofConfig config)) s.state).1 with
  | none =>
    obtain ⟨_, hcreate, -⟩ := create_of_none hanswer capture render
    rw [hcreate] at hmade
    cases hmade
  | some ref =>
    rw [create_of_some hanswer] at hmade
    split at hmade
    · cases hmade
      exact ⟨rfl, rfl⟩
    · cases hmade

/-- The formats of a native engine are those of its handle, in the form that the library takes. -/
theorem format_of_reachable {h : Handle (NativeEngine library)} {s : Session σ ι}
    (hreachable : Handle.Reachable (h, s)) {e : NativeEngine library} (hopen : h.engine = some e)
    (direction : Direction) : e.format direction = .ofStream (h.format direction) := by
  have hformats := hreachable.engine_invariant
    (P := fun capture render t => t.1.capture = .ofStream capture ∧ t.1.render = .ofStream render)
    ?_ ?_ hopen
  · cases direction
    · exact hformats.1
    · exact hformats.2
  · intro config capture render s e s' hmade
    exact format_of_create hmade
  · intro op capture render t hkept
    rw [(step_uses op t.1 t.2).1]
    exact hkept

/-- So the library is told the channel counts of the handle. -/
theorem channelCount_of_reachable {h : Handle (NativeEngine library)} {s : Session σ ι}
    (hreachable : Handle.Reachable (h, s)) {e : NativeEngine library} (hopen : h.engine = some e)
    (direction : Direction) :
    (h.format direction).channelCount = (e.format direction).channelCount := by
  rw [format_of_reachable hreachable hopen, WireFormat.channelCount_ofStream]

/-- Channels of the right number and length are lent to the library in one call. -/
theorem processFloat_of_fits {e : NativeEngine library} {direction : Direction}
    {channels : List (List Binary32)}
    (hcount : channels.length = (e.format direction).channelCount)
    (hfull : ∀ channel ∈ channels, channel.length = samplesPerFrame) (s : Session σ ι) :
    Engine.processFloat direction channels e s =
      let answer := library.call
        (.processFloat e.ref direction channels (e.format direction) (e.format direction)) s
      (checkStatus answer.1.1, answer.1.2.val, e, answer.2) := by
  have hany : ¬(channels.any (·.length ≠ samplesPerFrame)) = true := by
    simpa using hfull
  simp only [Engine.processFloat, processFloat, checkChannels, if_neg (not_not_intro hcount),
    if_neg hany]

/-- Samples of the right number are lent to the library in one call. -/
theorem processPcm_of_fits {e : NativeEngine library} {direction : Direction}
    {samples : List Int16}
    (hlength : samples.length = (e.format direction).channelCount * samplesPerFrame)
    (s : Session σ ι) :
    Engine.processPcm direction samples e s =
      let answer := library.call (.processPcm e.ref direction samples (Int32.ofNat samples.length)
        (e.format direction) (e.format direction) (Int32.ofNat samples.length)) s
      (checkStatus answer.1.1, answer.1.2.val, e, answer.2) := by
  simp only [Engine.processPcm, processPcm, checkSamples, if_neg (not_not_intro hlength)]

end NativeEngine

end Native

end VoiceProcessing
