import Mathlib.Tactic.NormNum
import VoiceProcessing.Pcm
import VoiceProcessing.Proofs.RealValues

/-!
# Writing numbers as 16-bit samples

A number is clamped to full scale, scaled and rounded to an integer. Clamping is exact. Scaling
rounds to a code, and as full scale is less than `2 ^ 15`, it misses by at most `2 ^ -10`. Rounding
to an integer misses by one half. So the integer is known up to a little more than one half, and
from one on this leaves only full scale. As neither rounding exceeds full scale, the integer always
fits into 16 bits.

Every operation on the way keeps order, and none of them prefers a sign.
-/

namespace VoiceProcessing

namespace Binary

variable {f : Format} {x y : Binary f}

/-- The number one stands for one. -/
theorem toReal_one : (1 : Binary f).toReal = 1 := by
  have hone : (1 : Binary f).toReal = ((1 : Int) : ℝ) := toReal_ofInt Nat.one_le_two_pow
  rw [hone, Int.cast_one]

/-- It does so among the extended real numbers, too. -/
theorem toEReal_one : (1 : Binary f).toEReal = 1 := by
  rw [toEReal_of_isFinite exactly_one.isFinite, toReal_one, EReal.coe_one]

/-- Its opposite stands for minus one. -/
theorem toEReal_neg_one : (-1 : Binary f).toEReal = -1 := by
  have hfinite : (-1 : Binary f).isFinite = true := (isFinite_neg 1).trans exactly_one.isFinite
  rw [toEReal_of_isFinite hfinite, toReal_neg, toReal_one, EReal.coe_neg, EReal.coe_one]

/-- One is a number. -/
theorem isNaN_one : (1 : Binary f).isNaN = false :=
  isNaN_of_isFinite exactly_one.isFinite

/-- Clamping to one, told by places. -/
theorem clamp_one_eq (hx : x.isNaN = false) :
    x.clamp (-1) 1 = if x.rank < -(1 : Binary f).rank then -1
      else if (1 : Binary f).rank < x.rank then 1 else x := by
  simp only [clamp, less, hx, isNaN_neg, isNaN_one, rank_neg, Bool.not_false, Bool.true_and,
    decide_eq_true_eq]

/-- What is clamped to one is at most one. -/
theorem within_clamp_one (hx : x.isNaN = false) : Within f.unity (x.clamp (-1) 1) := by
  have hone : Within f.unity (1 : Binary f) := exactly_one.within (Nat.le_refl _)
  have hplace : (1 : Binary f).rank = (1 : Binary f).code.val := rfl
  rw [clamp_one_eq hx]
  split
  case isTrue => exact ⟨hone.isFinite, hone.units_le⟩
  case isFalse hlow =>
    split
    case isTrue => exact hone
    case isFalse hhigh =>
      have hcode : x.code.val ≤ (1 : Binary f).code.val := by
        rw [← natAbs_rank]
        omega
      have hbelow : (1 : Binary f).code.val < f.infinityCode := of_decide_eq_true hone.isFinite
      exact ⟨decide_eq_true (Nat.lt_of_le_of_lt hcode hbelow),
        Nat.le_trans (f.units_strictMono.monotone hcode) hone.units_le⟩

/-- Clamping to one does not prefer a sign. -/
theorem clamp_one_neg (hx : x.isNaN = false) : (-x).clamp (-1) 1 = -(x.clamp (-1) 1) := by
  have hback : -(-1 : Binary f) = 1 := rfl
  have hplace : 0 ≤ (1 : Binary f).rank := Int.natCast_nonneg (1 : Binary f).code.val
  rw [clamp_one_eq hx, clamp_one_eq ((isNaN_neg x).trans hx), rank_neg]
  by_cases hlow : x.rank < -(1 : Binary f).rank
  · rw [if_neg (by omega), if_pos (by omega), if_pos hlow, hback]
  · by_cases hhigh : (1 : Binary f).rank < x.rank
    · rw [if_pos (by omega), if_neg hlow, if_pos hhigh]
    · rw [if_neg (by omega), if_neg (by omega), if_neg hlow, if_neg hhigh]

/-- The bounds are in order. -/
theorem neg_one_le_one : (-1 : EReal) ≤ 1 :=
  (EReal.neg_le_zero.mpr zero_le_one).trans zero_le_one

/-- Clamping to one clamps what a number stands for. -/
theorem toEReal_clamp_one (hx : x.isNaN = false) :
    (x.clamp (-1) 1).toEReal = max (-1) (min 1 x.toEReal) := by
  have hlow : (-1 : Binary f).isNaN = false := (isNaN_neg 1).trans isNaN_one
  have hbounds : (-1 : Binary f).toEReal ≤ (1 : Binary f).toEReal := by
    rw [toEReal_neg_one, toEReal_one]
    exact neg_one_le_one
  rw [toEReal_clamp hx hlow isNaN_one hbounds, toEReal_neg_one, toEReal_one]

end Binary

namespace Pcm

open Binary

/-- The part of full scale that a number asks for, exactly: what it stands for, from minus one to
one. -/
noncomputable def level (x : Binary32) : ℝ :=
  (max (-1) (min 1 x.toEReal)).toReal

/-- A number as it is scaled for writing. -/
def scaled (x : Binary32) : Binary32 :=
  x.clamp (-1) 1 * 32767

variable {x y : Binary32}

/-- The scale with which samples are written is a number of the format. -/
theorem exactly_writeScale : Exactly (32767 * Format.unity .single) (32767 : Binary32) :=
  exactly_ofInt (z := 32767) (by decide)

/-- It is not negative. -/
theorem negative_writeScale : (32767 : Binary32).negative = false :=
  negative_ofInt 32767

/-- It stands for itself. -/
theorem toReal_writeScale : (32767 : Binary32).toReal = 32767 :=
  toReal_ofInt (z := 32767) (by decide)

/-- What is clamped stands for the level. -/
theorem toReal_clamp_one (hx : x.isNaN = false) : (x.clamp (-1) 1).toReal = level x := by
  rw [level, ← toEReal_clamp_one hx, toEReal_of_isFinite (within_clamp_one hx).isFinite,
    EReal.toReal_coe]

/-- Scaling stays finite, and its exact result has so few digits before the point. -/
theorem within_scaled (hx : x.isNaN = false) :
    Within (32767 * Format.unity .single) (scaled x) := by
  apply (within_clamp_one hx).mul (exactly_writeScale.within (Nat.le_refl _))
    (short_unity (by decide))
  exact Nat.le_refl _

/-- Scaling misses by at most `2 ^ -10`. -/
theorem abs_toReal_scaled_sub_le (hx : x.isNaN = false) :
    |(scaled x).toReal - 32767 * level x| ≤ 1 / 2 ^ 10 := by
  have hclamped := within_clamp_one hx
  -- In units the exact result is less than `2 ^ 164`, and the last 140 of its digits are rounded.
  have hlt : (x.clamp (-1) 1).units * (32767 : Binary32).units <
      Format.unity .single * 2 ^ (Format.fractionBits .single + 1 + 140) := by
    rw [exactly_writeScale.units_eq]
    exact Nat.lt_of_le_of_lt (Nat.mul_le_mul_right _ hclamped.units_le)
      (Nat.mul_lt_mul_of_pos_left (by decide) (Format.unity_pos _))
  have hnear := abs_toReal_mul_sub_le hclamped.isFinite exactly_writeScale.isFinite
    (within_scaled hx).isFinite hlt
  rw [toReal_clamp_one hx, toReal_writeScale, mul_comm (level x)] at hnear
  refine hnear.trans ?_
  have hunity : (Format.unity .single : ℝ) = 2 ^ 149 := by
    rw [Format.unity_eq, Nat.cast_pow]
    rfl
  rw [hunity]
  norm_num

/-- So the integer is known up to a little more than one half. -/
theorem abs_roundHalfAway_scaled_sub_le (hx : x.isNaN = false) :
    |((scaled x).roundHalfAway : ℝ) - 32767 * level x| ≤ 1 / 2 + 1 / 2 ^ 10 :=
  (abs_sub_le _ (scaled x).toReal _).trans
    (add_le_add (abs_roundHalfAway_sub_le _) (abs_toReal_scaled_sub_le hx))

/-- The integer is within full scale. -/
theorem roundHalfAway_scaled_bounds (hx : x.isNaN = false) :
    -32767 ≤ (scaled x).roundHalfAway ∧ (scaled x).roundHalfAway ≤ 32767 := by
  have hmost := natAbs_roundHalfAway_le (n := 32767) (within_scaled hx).units_le
  omega

/-- So it fits into 16 bits. -/
theorem toInt_encode (hx : x.isNaN = false) :
    (encode x).toInt = (scaled x).roundHalfAway := by
  obtain ⟨hleast, hmost⟩ := roundHalfAway_scaled_bounds hx
  rw [encode, hx, if_neg Bool.false_ne_true, ← scaled]
  exact Int16.toInt_ofInt_of_le (by omega) (by omega)

/-- What is not a number is written as silence. -/
theorem encode_of_isNaN (hx : x.isNaN = true) : encode x = 0 := by
  rw [encode, hx, if_pos rfl]

/-- Clamping, scaling and rounding each keep order. -/
theorem roundHalfAway_scaled_le (hx : x.isNaN = false) (hy : y.isNaN = false)
    (hle : x.toEReal ≤ y.toEReal) : (scaled x).roundHalfAway ≤ (scaled y).roundHalfAway := by
  have hfinite := (within_clamp_one hx).isFinite
  have hfinite' := (within_clamp_one hy).isFinite
  have hclamped : (x.clamp (-1) 1).signedUnits ≤ (y.clamp (-1) 1).signedUnits := by
    -- Full scale is where the infinities end up, so what is compared is real on either side.
    have hlevels := max_le_max_left (-1) (min_le_min_left 1 hle)
    rwa [← toEReal_clamp_one hx, ← toEReal_clamp_one hy, toEReal_of_isFinite hfinite,
      toEReal_of_isFinite hfinite', EReal.coe_le_coe_iff, toReal_le_iff] at hlevels
  exact roundHalfAway_le (signedUnits_mul_le hfinite hfinite' exactly_writeScale.isFinite
    negative_writeScale hclamped)

/-- The opposite number is scaled to the opposite. -/
theorem scaled_neg (hx : x.isNaN = false) : scaled (-x) = -scaled x := by
  rw [scaled, clamp_one_neg hx,
    neg_mul_eq (within_clamp_one hx).isFinite exactly_writeScale.isFinite, scaled]

/-- A rule for writing numbers as 16-bit samples that keeps their order and their signs, saturates
at full scale in both directions, and is nearly exact in between. -/
structure Quantizer (write : Binary32 → Int16) : Prop where
  /-- What is not a number is silence. -/
  silent {x : Binary32} (hx : x.isNaN = true) : write x = 0
  monotone {x y : Binary32} (hx : x.isNaN = false) (hy : y.isNaN = false)
    (hle : x.toEReal ≤ y.toEReal) : (write x).toInt ≤ (write y).toInt
  odd (x : Binary32) : (write (-x)).toInt = -(write x).toInt
  /-- The lowest sample is never written. -/
  range (x : Binary32) : -32767 ≤ (write x).toInt ∧ (write x).toInt ≤ 32767
  highest {x : Binary32} (hx : 1 ≤ x.toEReal) : (write x).toInt = 32767
  lowest {x : Binary32} (hx : x.toEReal ≤ -1) : (write x).toInt = -32767
  near {x : Binary32} (hx : x.isNaN = false) :
    |((write x).toInt : ℝ) - 32767 * level x| ≤ 1 / 2 + 1 / 2 ^ 10

/-- Only a number stands for anything but zero. -/
theorem isNaN_of_toEReal (hx : x.toEReal ≠ 0) : x.isNaN = false := by
  rw [← Bool.not_eq_true]
  intro hnan
  rw [toEReal, hnan, if_pos rfl] at hx
  exact hx rfl

/-- From one on, the level is full scale. -/
theorem level_of_one_le (hx : 1 ≤ x.toEReal) : level x = 1 := by
  rw [level, min_eq_left hx, max_eq_right neg_one_le_one, EReal.toReal_one]

/-- So it is in the other direction. -/
theorem level_of_le_neg_one (hx : x.toEReal ≤ -1) : level x = -1 := by
  rw [level, min_eq_right (hx.trans neg_one_le_one), max_eq_left hx, EReal.toReal_neg_eq,
    EReal.toReal_one]

/-- An integer that is less than one away from another is the same. -/
theorem eq_of_near {m n : Int} (hnear : |(m : ℝ) - n| ≤ 1 / 2 + 1 / 2 ^ 10) : m = n := by
  have hless : |((m - n : Int) : ℝ)| < 1 := by
    rw [Int.cast_sub]
    exact hnear.trans_lt (by norm_num)
  have hzero : m - n = 0 := Int.abs_lt_one_iff.mp (by exact_mod_cast hless)
  omega

/-- So at a whole level, full scale or silence, the sample is exact. -/
theorem toInt_encode_of_level {n : Int} (hx : x.isNaN = false) (hlevel : level x = n) :
    (encode x).toInt = 32767 * n := by
  have hnear := abs_roundHalfAway_scaled_sub_le hx
  rw [hlevel] at hnear
  rw [toInt_encode hx]
  exact eq_of_near (by exact_mod_cast hnear)

/-- Encoding is such a rule. -/
theorem quantizer_encode : Quantizer encode where
  silent := encode_of_isNaN
  monotone hx hy hle := by
    rw [toInt_encode hx, toInt_encode hy]
    exact roundHalfAway_scaled_le hx hy hle
  odd x := by
    have hneg := isNaN_neg x
    cases hx : x.isNaN with
    | true =>
      rw [encode_of_isNaN hx, encode_of_isNaN (hneg.trans hx)]
      rfl
    | false =>
      rw [toInt_encode hx, toInt_encode (hneg.trans hx), scaled_neg hx, roundHalfAway_neg]
  range x := by
    cases hx : x.isNaN with
    | true =>
      rw [encode_of_isNaN hx]
      decide
    | false =>
      rw [toInt_encode hx]
      exact roundHalfAway_scaled_bounds hx
  highest {x} hx := by
    have hnumber := isNaN_of_toEReal (one_pos.trans_le hx).ne'
    have hlevel : level x = (1 : Int) := by rw [level_of_one_le hx, Int.cast_one]
    rw [toInt_encode_of_level hnumber hlevel, mul_one]
  lowest {x} hx := by
    have hnumber := isNaN_of_toEReal (hx.trans_lt (EReal.neg_lt_zero.mpr one_pos)).ne
    have hlevel : level x = (-1 : Int) := by
      rw [level_of_le_neg_one hx, Int.cast_neg, Int.cast_one]
    rw [toInt_encode_of_level hnumber hlevel, mul_neg, mul_one]
  near hx := by
    rw [toInt_encode hx]
    exact abs_roundHalfAway_scaled_sub_le hx

end Pcm

/-- Numbers are written as 16-bit samples with silence for what is not a number, in order, with
their signs, within full scale, which everything from one on reaches in either direction, and at
most `1 / 2 + 2 ^ -10` away from what they ask for. A frame is written sample by sample. -/
theorem encoding_quantizes :
    Pcm.Quantizer Pcm.encode ∧
      ∀ frame, (Pcm.encodeFrame frame).length = frame.length ∧
        ∀ i : Nat, (Pcm.encodeFrame frame)[i]? = frame[i]?.map Pcm.encode := by
  refine ⟨Pcm.quantizer_encode, ?_⟩
  intro frame
  exact ⟨List.length_map _, fun i => List.getElem?_map⟩

/-- A negative value that is not a number is silence, both zeros are written alike, the greatest
number below one is written no higher than infinity, the infinities are at full scale, and the
negative number nearest to zero is written close to what it asks for. -/
theorem encoding_quantizes_of_extremes :
    let payload : Binary32 := .ofBits 0xffc00001
    let below : Binary32 := .ofBits 0x3f7fffff
    let nearest : Binary32 := .ofBits 0x80000001
    let high : Binary32 := .infinity false
    (payload.isNaN = true ∧ Pcm.encode payload = 0) ∧
      (Pcm.encode (.zero true)).toInt = (Pcm.encode (.zero false)).toInt ∧
      (below.toEReal ≤ high.toEReal ∧ (Pcm.encode below).toInt ≤ (Pcm.encode high).toInt) ∧
      (Pcm.encode high).toInt = 32767 ∧ (Pcm.encode (-high)).toInt = -32767 ∧
      (nearest.isNaN = false ∧
        |((Pcm.encode nearest).toInt : ℝ) - 32767 * Pcm.level nearest| ≤ 1 / 2 + 1 / 2 ^ 10) ∧
      (Pcm.encodeFrame [payload, high]).length = 2 ∧
      (Pcm.encodeFrame [payload, high])[0]? = some (Pcm.encode payload) := by
  intro payload below nearest high
  obtain ⟨hencode, hframe⟩ := encoding_quantizes
  have hpayload : payload.isNaN = true := by decide
  have hbelow : below.isNaN = false := by decide
  have hnearest : nearest.isNaN = false := by decide
  have hhigh : high.toEReal = ⊤ := Binary.toEReal_infinity false
  have hlow : (-high).toEReal = ⊥ := Binary.toEReal_infinity true
  have hzeros : (Binary.zero true : Binary32).toEReal = (Binary.zero false : Binary32).toEReal :=
    le_antisymm ((Binary.toEReal_le_iff (by decide) (by decide)).mpr (by decide))
      ((Binary.toEReal_le_iff (by decide) (by decide)).mpr (by decide))
  refine ⟨⟨hpayload, hencode.silent hpayload⟩, ?_, ⟨?_, ?_⟩, ?_, ?_, ⟨hnearest, ?_⟩, ?_, ?_⟩
  · exact le_antisymm (hencode.monotone (by decide) (by decide) hzeros.le)
      (hencode.monotone (by decide) (by decide) hzeros.ge)
  · rw [hhigh]
    exact le_top
  · exact hencode.monotone hbelow (by decide) (hhigh ▸ le_top)
  · exact hencode.highest (hhigh ▸ le_top)
  · exact hencode.lowest (hlow ▸ bot_le)
  · exact hencode.near hnearest
  · exact (hframe _).1
  · exact (hframe _).2 0

end VoiceProcessing
