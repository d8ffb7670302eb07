import Mathlib.Data.List.Forall2
import Mathlib.Logic.Function.Iterate
import VoiceProcessing.Proofs.Quantizer
import VoiceProcessing.Proofs.Transparency

/-!
# Passing 16-bit frames again and again

Samples are read with one scale and written with another, so a sample does not always come back from
a processor as it was. On the way it loses less than half a step up to half of full scale, and at
most one step above. Rounding makes good for the first, so what has come down to half of full scale
stays there, however often the frame is passed through the processor, and no pass takes away more
than one step.
-/

namespace VoiceProcessing

namespace Pcm

open Binary

/-- What becomes of a sample that is read as a number and written again. -/
def recode (sample : Int16) : Int16 :=
  encode (decode sample)

/-- A step of 16-bit samples is a power of two of units with this exponent. -/
def stepExponent : Nat :=
  Format.scale .single - 15

/-- There are `2 ^ 15` steps to full scale. -/
theorem unity_eq_steps : Format.unity .single = 2 ^ 15 * 2 ^ stepExponent := by
  decide

/-- Samples are small numbers. -/
theorem natAbs_toInt_le (sample : Int16) : sample.toInt.natAbs ≤ 32768 := by
  have hlow := sample.le_toInt
  have hhigh := sample.toInt_lt
  omega

/-- The scale with which samples are read is a number of the format. -/
theorem exactly_readScale : Exactly (32768 * Format.unity .single) (32768 : Binary32) :=
  exactly_ofInt (z := 32768) (by decide)

/-- It is not negative. -/
theorem negative_readScale : (32768 : Binary32).negative = false :=
  negative_ofInt 32768

/-- The samples themselves are numbers of the format, too. -/
theorem exactly_sample (sample : Int16) :
    Exactly (sample.toInt.natAbs * Format.unity .single) (ofInt sample.toInt : Binary32) :=
  exactly_ofInt (Nat.le_trans (natAbs_toInt_le sample) (by decide))

/-- A sample is read exactly. -/
theorem exactly_decode (sample : Int16) :
    Exactly (sample.toInt.natAbs * 2 ^ stepExponent) (decode sample) := by
  have hfew : sample.toInt.natAbs ≤ 2 ^ 23 := Nat.le_trans (natAbs_toInt_le sample) (by decide)
  apply (exactly_sample sample).div exactly_readScale (by decide) ⟨hfew, by decide⟩
  rw [unity_eq_steps]
  ac_rfl

/-- A sample is read with its sign. -/
theorem negative_decode (sample : Int16) :
    (decode sample).negative = decide (sample.toInt < 0) := by
  have hpositive : 0 < (32768 : Binary32).units := by
    rw [exactly_readScale.units_eq]
    decide
  rw [decode, negative_div (exactly_sample sample).isFinite exactly_readScale.isFinite hpositive,
    negative_readScale, Bool.bne_false]
  rfl

/-- What is read is at most full scale. -/
theorem within_decode (sample : Int16) : Within (Format.unity .single) (decode sample) := by
  apply (exactly_decode sample).within
  rw [unity_eq_steps]
  exact Nat.mul_le_mul_right _ (natAbs_toInt_le sample)

/-- A sample as it is scaled for writing. -/
def rescaled (sample : Int16) : Binary32 :=
  decode sample * 32767

/-- So nothing is clamped when a sample is written again. -/
theorem scaled_decode (sample : Int16) : scaled (decode sample) = rescaled sample := by
  rw [scaled, clamp_one (within_decode sample), rescaled]

/-- Scaling keeps the sign. -/
theorem negative_rescaled (sample : Int16) :
    (rescaled sample).negative = decide (sample.toInt < 0) := by
  rw [rescaled, negative_mul (exactly_decode sample).isFinite exactly_writeScale.isFinite,
    negative_decode, negative_writeScale, Bool.bne_false]

/-- The exact result of scaling so many steps, to be divided by the unity. -/
theorem exact_rescaled (steps : Nat) :
    steps * 2 ^ stepExponent * (32767 * Format.unity .single) =
      Format.unity .single * 2 ^ stepExponent * (steps * 32767) := by
  ac_rfl

/-- A bound for it, in multiples of a power of two that is at least a step. -/
theorem bound_rescaled (digits doublings : Nat) :
    Format.unity .single * (digits * 2 ^ (stepExponent + doublings)) =
      Format.unity .single * 2 ^ stepExponent * (digits * 2 ^ doublings) := by
  rw [Nat.pow_add]
  ac_rfl

/-- Scaling does not exceed a bound that the exact result does not exceed. -/
theorem within_rescaled (sample : Int16) {digits doublings : Nat} (hdigits : digits ≤ 2 ^ 23)
    (hdoublings : doublings ≤ 15) (hle : sample.toInt.natAbs * 32767 ≤ digits * 2 ^ doublings) :
    Within (digits * 2 ^ (stepExponent + doublings)) (rescaled sample) := by
  have hstep : stepExponent = 134 := by decide
  have hexponent : stepExponent + doublings + 3 < 2 ^ 8 := by omega
  apply ((exactly_decode sample).within (Nat.le_refl _)).mul
    (exactly_writeScale.within (Nat.le_refl _)) ⟨hdigits, hexponent⟩
  rw [exact_rescaled, bound_rescaled]
  exact Nat.mul_le_mul_left _ hle

/-- Scaling reaches a bound that the exact result reaches. -/
theorem le_units_rescaled (sample : Int16) {digits doublings : Nat} (hdigits : digits ≤ 2 ^ 23)
    (hle : digits * 2 ^ doublings ≤ sample.toInt.natAbs * 32767) :
    digits * 2 ^ (stepExponent + doublings) ≤ (rescaled sample).units := by
  have hsize := natAbs_toInt_le sample
  have hwithin := within_rescaled sample (by decide : 32768 ≤ 2 ^ 23) (Nat.le_refl 15) (by omega)
  apply le_units_mul (exactly_decode sample) exactly_writeScale hwithin.isFinite hdigits
  rw [exact_rescaled, bound_rescaled]
  exact Nat.mul_le_mul_left _ hle

/-- What is written exceeds neither the sample nor full scale. -/
theorem natAbs_roundHalfAway_rescaled_le (sample : Int16) :
    (rescaled sample).roundHalfAway.natAbs ≤ min sample.toInt.natAbs 32767 := by
  have hsize := natAbs_toInt_le sample
  apply natAbs_roundHalfAway_le
  exact (within_rescaled sample (by omega) (Nat.le_refl 15) (by omega)).units_le

/-- The integer is what the sample becomes. -/
theorem toInt_recode (sample : Int16) :
    (recode sample).toInt = (rescaled sample).roundHalfAway := by
  rw [recode, toInt_encode (isNaN_of_isFinite (within_decode sample).isFinite), scaled_decode]

/-- It is at most one step short of the sample. -/
theorem natAbs_le_recode_succ (sample : Int16) :
    sample.toInt.natAbs ≤ (recode sample).toInt.natAbs + 1 := by
  have hsize := natAbs_toInt_le sample
  have hunits : (sample.toInt.natAbs - 1) * Format.unity .single ≤ (rescaled sample).units :=
    le_units_rescaled sample (by omega) (by omega : _ * 2 ^ 15 ≤ _)
  have hreached : sample.toInt.natAbs - 1 ≤ (rescaled sample).roundHalfAway.natAbs :=
    le_natAbs_roundHalfAway (by omega)
  rw [toInt_recode]
  omega

/-- Up to half of full scale less than half a step is missing, which is made good by rounding. -/
theorem natAbs_le_recode (sample : Int16) (hhalf : sample.toInt.natAbs ≤ 16384) :
    sample.toInt.natAbs ≤ (recode sample).toInt.natAbs := by
  rw [toInt_recode]
  rcases Nat.eq_zero_or_pos sample.toInt.natAbs with hzero | hpos
  · rw [hzero]
    exact Nat.zero_le _
  · obtain ⟨n, hn⟩ : ∃ n, sample.toInt.natAbs = n + 1 := ⟨_, (Nat.succ_pred_eq_of_pos hpos).symm⟩
    have hunits : (2 * n + 1) * 2 ^ (stepExponent + 14) ≤ (rescaled sample).units :=
      le_units_rescaled sample (by omega) (by omega)
    have hunity : Format.unity .single = 2 * 2 ^ (stepExponent + 14) := by decide
    apply le_natAbs_roundHalfAway
    rw [hn, hunity]
    generalize 2 ^ (stepExponent + 14) = half at hunits
    rw [Nat.add_mul] at hunits ⊢
    rw [Nat.mul_assoc] at hunits
    rw [Nat.mul_left_comm]
    omega

/-- What may become of a sample in a number of passes: it keeps its sign, and loses at most one step
in a pass, but nothing below half of full scale. -/
structure Drifted (passes : Nat) (x y : Int) : Prop where
  zero_iff : y = 0 ↔ x = 0
  negative_iff : y < 0 ↔ x < 0
  least : max (x.natAbs - passes) (min x.natAbs 16384) ≤ y.natAbs
  most : y.natAbs ≤ x.natAbs
  kept : x.natAbs ≤ 16384 → y = x
  near : (y - x).natAbs ≤ passes
  of_lowest : passes = 1 → x = -32768 → y = -32767

/-- Nothing becomes of a sample in no pass. -/
theorem Drifted.refl (x : Int) : Drifted 0 x x where
  zero_iff := Iff.rfl
  negative_iff := Iff.rfl
  least := by omega
  most := Nat.le_refl _
  kept _ := rfl
  near := by omega
  of_lowest := by omega

/-- Passes add up. -/
theorem Drifted.trans {m n : Nat} {x y z : Int} (hxy : Drifted m x y) (hyz : Drifted n y z) :
    Drifted (m + n) x z where
  zero_iff := hyz.zero_iff.trans hxy.zero_iff
  negative_iff := hyz.negative_iff.trans hxy.negative_iff
  least := by
    have hfirst := hxy.least
    have hsecond := hyz.least
    omega
  most := Nat.le_trans hyz.most hxy.most
  kept hhalf := (hyz.kept (Nat.le_trans hxy.most hhalf)).trans (hxy.kept hhalf)
  near := by
    have hfirst := hxy.near
    have hsecond := hyz.near
    omega
  of_lowest hone hlowest := by
    obtain ⟨rfl, rfl⟩ | ⟨rfl, rfl⟩ : m = 0 ∧ n = 1 ∨ m = 1 ∧ n = 0 := by omega
    · have hsame := hxy.near
      exact hyz.of_lowest rfl (by omega)
    · have hsame := hyz.near
      have hfirst := hxy.of_lowest rfl hlowest
      omega

/-- One pass. -/
theorem drifted_recode (sample : Int16) : Drifted 1 sample.toInt (recode sample).toInt := by
  have hsize := natAbs_toInt_le sample
  have hmost := natAbs_roundHalfAway_rescaled_le sample
  have hsign := roundHalfAway_eq (rescaled sample)
  have hpred := natAbs_le_recode_succ sample
  have hhalf := natAbs_le_recode sample
  rw [negative_rescaled] at hsign
  rw [← toInt_recode] at hmost hsign
  simp only [decide_eq_true_eq] at hsign
  constructor <;> omega

/-- The highest sample does lose a step. -/
example : recode 32767 = 32766 := by
  decide +kernel

/-- Any number of passes. -/
theorem drifted_iterate (sample : Int16) (passes : Nat) :
    Drifted passes sample.toInt (recode^[passes] sample).toInt := by
  induction passes with
  | zero => exact Drifted.refl _
  | succ passes ih =>
    rw [Function.iterate_succ_apply']
    exact ih.trans (drifted_recode _)

end Pcm

namespace Processor

variable {ε ω : Type} [Engine ε ω]

/-- Pass a 16-bit frame through the capture stream a number of times, each time the processed copy
that came of it before. The answer is the last copy. -/
def passRepeatedly : Nat → List Int16 → Processor ε × ω →
    Except Fault (Except Error (List Int16) × Processor ε × ω)
  | 0, frame, s => .ok (.ok frame, s)
  | passes + 1, frame, (p, world) => do
    let (result, s) ← p.processCapturePcm frame world
    match result with
    | .error e => return (.error e, s)
    | .ok copy => passRepeatedly passes copy s

variable [LawfulEngine ε ω]

/-- A processor is closed exactly if it has been. -/
theorem isClosed_after {config : Config} {world₀ world : ω} {p : Processor ε}
    (hmade : create config world₀ = (.ok p, world)) (ops : List Op) :
    (History.after step ops (p, world)).1.isClosed = true ↔ .close ∈ ops := by
  obtain ⟨h, hcreate, rfl⟩ := exists_of_create hmade
  have hinner := inner_after (s := (⟨h, config⟩, world))
    (Handle.channelCount_format_of_create hcreate) (Handle.ready_of_create hcreate).1 ops
  have hended := (Handle.after_create hcreate (ops.map (Op.onHandle config.channelCount))).2.1
  have hclosed : (History.after step ops ((⟨h, config⟩ : Processor ε), world)).1.isClosed =
      (inner (History.after step ops ((⟨h, config⟩ : Processor ε), world))).1.isClosed := rfl
  rw [hclosed, hinner]
  refine hended.trans ?_
  simp only [List.mem_map, onHandle_eq_destroy_iff, exists_eq_right]

/-- On an obedient engine, every pass converts each sample to a number and back, and that is all. -/
theorem passRepeatedly_eq (hobedient : Engine.Obedient ε) {config : Config} {world₀ world : ω}
    {p : Processor ε} (hmade : create config world₀ = (.ok p, world)) (ops : List Op)
    (hopen : .close ∉ ops) (passes : Nat) (frame : List Int16)
    (hlength : frame.length = 480 * config.channelCount .capture) :
    ∃ t, passRepeatedly passes frame (History.after step ops (p, world)) =
      .ok (.ok (frame.map Pcm.recode^[passes]), t) := by
  induction passes generalizing ops frame with
  | zero => exact ⟨_, congrArg (fun copy => Except.ok (Except.ok copy, _)) (List.map_id frame).symm⟩
  | succ passes ih =>
    have hclosed := Bool.eq_false_iff.mpr (mt (isClosed_after hmade ops).mp hopen)
    obtain ⟨s, hpass⟩ := (transparent_after hobedient hmade hclosed).capturedPcm frame hlength
    -- The next passes begin in the state that the history with this pass leads to.
    let op : Op := .processCapturePcm frame
    have hstate : History.after step (ops ++ [op]) (p, world) = s := by
      rw [History.after_append, History.after_cons, History.after_nil]
      exact congrArg (fun answer => (replying .pcm _ answer).2) hpass
    have hlater := ih (ops ++ [op]) (by simp [op, hopen]) (frame.map Pcm.recode)
      ((List.length_map _).trans hlength)
    rw [hstate, List.map_map, ← Function.iterate_succ] at hlater
    simp only [passRepeatedly]
    rw [hpass]
    exact hlater

end Processor

/-- Processors on the bypass engine can be made for all channel counts that are not zero, and then
pass a 16-bit frame that fits any number of times, as long as they are open, whatever has been done
with them. No sample drifts by more than one step per pass, and none further than to half of full
scale. -/
theorem repeatedPasses_drift (config : Config) (hcapture : config.captureChannels ≠ 0)
    (hrender : config.renderChannels ≠ 0) :
    ∃ p : Processor Bypass, Processor.create config () = (.ok p, ()) ∧
      ∀ ops, (History.after Processor.step ops (p, ())).1.isClosed = false →
        ∀ (passes : Nat) (frame : List Int16), frame.length = 480 * config.channelCount .capture →
          ∃ out t,
            Processor.passRepeatedly passes frame (History.after Processor.step ops (p, ())) =
              .ok (.ok out, t) ∧
            List.Forall₂ (fun x y => Pcm.Drifted passes x.toInt y.toInt) frame out := by
  obtain ⟨h, hcreate⟩ : ∃ h : Handle Bypass, Handle.create config () = (.ok h, ()) :=
    ⟨_, Handle.create_of_ne_zero hcapture hrender ()⟩
  have hmade := Processor.create_of_handle hcreate
  refine ⟨_, hmade, ?_⟩
  intro ops hopen passes frame hlength
  have hclose := mt (Processor.isClosed_after hmade ops).mpr (Bool.eq_false_iff.mp hopen)
  obtain ⟨t, hpasses⟩ :=
    Processor.passRepeatedly_eq Bypass.obedient hmade ops hclose passes frame hlength
  refine ⟨_, t, hpasses, ?_⟩
  rw [List.forall₂_map_right_iff, List.forall₂_same]
  exact fun sample _ => Pcm.drifted_iterate sample passes

/-- After other calls, a frame of the lowest samples comes back one step higher from one pass, and a
frame at half of full scale comes back as it was from a thousand. -/
theorem repeatedPasses_drift_of_lowest :
    let lowest : List Int16 := List.replicate 480 (-32768)
    let half : List Int16 := List.replicate 480 (-16384)
    let before : List Processor.Op :=
      [.setOutputMuted true, .processRender (List.replicate 480 1)]
    ∃ p : Processor Bypass, Processor.create {} () = (.ok p, ()) ∧
      let s := History.after Processor.step before (p, ())
      (∃ t, Processor.passRepeatedly 1 lowest s = .ok (.ok (List.replicate 480 (-32767)), t)) ∧
      ∃ t, Processor.passRepeatedly 1000 half s = .ok (.ok half, t) := by
  intro lowest half before
  obtain ⟨p, hmade, hdrift⟩ := repeatedPasses_drift {} (by decide) (by decide)
  have hopen : (History.after Processor.step before (p, ())).1.isClosed = false := by
    apply Bool.eq_false_iff.mpr
    rw [ne_eq, Processor.isClosed_after hmade]
    simp only [before, List.mem_cons, List.not_mem_nil, reduceCtorEq, or_self, not_false_eq_true]
  have hall {passes : Nat} {x y : Int16} {out : List Int16}
      (hout : List.Forall₂ (fun x y => Pcm.Drifted passes x.toInt y.toInt)
        (List.replicate 480 x) out)
      (hbecomes : ∀ z : Int, Pcm.Drifted passes x.toInt z → z = y.toInt) :
      out = List.replicate 480 y := by
    refine List.eq_replicate_iff.mpr ⟨hout.length_eq.symm.trans List.length_replicate, ?_⟩
    intro z hz
    obtain ⟨i, hi, rfl⟩ := List.getElem_of_mem hz
    have hsample := hout.get (hout.length_eq ▸ hi) hi
    simp only [List.get_eq_getElem, List.getElem_replicate] at hsample
    exact Int16.toInt_inj.mp (hbecomes _ hsample)
  refine ⟨p, hmade, ?_, ?_⟩
  · obtain ⟨out, t, hpass, hout⟩ := hdrift before hopen 1 lowest List.length_replicate
    rw [hall (y := -32767) hout fun z hz => hz.of_lowest rfl rfl] at hpass
    exact ⟨t, hpass⟩
  · obtain ⟨out, t, hpass, hout⟩ := hdrift before hopen 1000 half List.length_replicate
    rw [hall (y := -16384) hout fun z hz => hz.kept (by decide)] at hpass
    exact ⟨t, hpass⟩

end VoiceProcessing
