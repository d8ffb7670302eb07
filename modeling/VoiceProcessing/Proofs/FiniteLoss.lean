import VoiceProcessing.Proofs.EchoReport
import VoiceProcessing.Proofs.SignalPower

/-!
# When the echo return loss is finite

The loss compares two powers unless one of them is silent or not a number, and nobody looks whether
they are infinite. Finite powers of frames are far from both ends of double precision, and audible
ones also from zero, so that their ratio has a finite logarithm. If one of them is infinite, the
loss is infinite, and if both are, it is not a number.
-/

namespace VoiceProcessing

open Binary

namespace Bypass

open Power

/-- Above the bits of its fraction, an audible power has at least this exponent. -/
def audibleExponent : Nat := 988

/-- The ratio of an audible power to another has at most as many units as two to the power of
this. -/
def ratioExponent : Nat := 1398

/-- What is greater than a number that is not negative is coded by more. -/
theorem code_lt_of_less {f : Format} {x y : Binary f} (hless : x.less y = true)
    (hsign : x.negative = false) : y.negative = false ∧ x.code.val < y.code.val := by
  simp only [less, rank, hsign, Bool.and_eq_true, decide_eq_true_eq, Bool.false_eq_true, if_false]
    at hless
  obtain ⟨-, hrank⟩ := hless
  cases hnegative : y.negative with
  | true =>
    rw [hnegative, if_pos rfl] at hrank
    omega
  | false =>
    rw [hnegative, if_neg Bool.false_ne_true] at hrank
    exact ⟨rfl, Int.ofNat_lt.mp hrank⟩

/-- An audible power has some magnitude. -/
theorem units_of_audible {power : Binary64} (haudible : Audible power) :
    power.negative = false ∧
      2 ^ (Format.fractionBits .double + audibleExponent) ≤ power.units := by
  have hless : silencePower.less power = true := by
    rw [silencePower_eq]
    exact haudible
  obtain ⟨hsign, hcode⟩ := code_lt_of_less hless rfl
  have hsilence : (audibleExponent + 1) * 2 ^ Format.fractionBits .double ≤
      silencePower.code.val := by
    decide
  exact ⟨hsign, Format.two_pow_le_units (Nat.le_trans hsilence (Nat.le_of_lt hcode))⟩

variable {rendered captured : Binary64}

/-- The ratio of audible powers of frames is finite, positive and not zero. -/
theorem ratio_of_audible (hrendered : Within (frameSquares * 2 ^ squareExponent) rendered)
    (hcaptured : Within (frameSquares * 2 ^ squareExponent) captured)
    (haudible : Audible rendered) (haudible' : Audible captured) :
    (rendered / captured).isFinite = true ∧ (rendered / captured).negative = false ∧
      0 < (rendered / captured).units := by
  obtain ⟨hsign, hunits⟩ := units_of_audible haudible
  obtain ⟨hsign', hunits'⟩ := units_of_audible haudible'
  have hpos : 0 < captured.units := Nat.lt_of_lt_of_le (Nat.two_pow_pos _) hunits'
  have hmost : frameSquares * 2 ^ squareExponent ≤
      2 ^ (Format.fractionBits .double + audibleExponent) * Format.unity .double := by
    rw [frameSquares, Format.unity_eq]
    exact two_pow_mul_le (by decide)
  have hratio : Within (1 * 2 ^ ratioExponent) (rendered / captured) := by
    refine hrendered.div hcaptured.isFinite hpos hunits' ⟨by decide, by decide⟩ ?_
    rw [Nat.one_mul, Format.unity_eq, frameSquares]
    exact two_pow_mul_mul_le (by decide)
  have hquotient := div_eq_round hrendered.isFinite hcaptured.isFinite hpos
  refine ⟨hratio.isFinite, by rw [hquotient, hsign, hsign']; rfl, ?_⟩
  have hfinite := of_decide_eq_true hratio.isFinite
  rw [hquotient] at hfinite ⊢
  have hone : captured.units * 2 ^ 0 ≤ rendered.units * Format.unity .double := by
    rw [Nat.pow_zero, Nat.mul_one]
    exact Nat.le_trans hcaptured.units_le (Nat.le_trans hmost (Nat.mul_le_mul_right _ hunits))
  exact Format.two_pow_le_units_roundNat hpos hone hfinite

/-- So is ten times its logarithm finite. -/
theorem isFinite_loss (hrendered : Within (frameSquares * 2 ^ squareExponent) rendered)
    (hcaptured : Within (frameSquares * 2 ^ squareExponent) captured)
    (haudible : Audible rendered) (haudible' : Audible captured) :
    (10 * (rendered / captured).log10).isFinite = true := by
  obtain ⟨hfinite, hsign, hpos⟩ := ratio_of_audible hrendered hcaptured haudible haudible'
  have hten : Within (10 * Format.unity .double) (ofInt (10 : Nat) : Binary64) :=
    within_ofInt (Nat.le_refl 10) (by decide)
  have hshort : Short .double (10 * Format.span .double) (Format.scale .double) :=
    short_unity (by decide)
  refine (hten.mul (within_log10 hfinite hsign hpos) hshort (Nat.le_of_eq ?_)).isFinite
  rw [← Format.unity_eq, Nat.mul_comm 10 (Format.unity .double), Nat.mul_assoc, Nat.mul_assoc]

/-- Where there is no loss, zero is reported, which is finite. -/
theorem isFinite_zero : (0 : Binary64).isFinite = true :=
  (within_ofInt (Nat.le_refl 0) (Nat.zero_le _)).isFinite

/-- Whether a loss is computed from an infinite power. -/
def Overloaded (rendered : Option Binary64) (captured : Binary64) : Prop :=
  ∃ power, rendered = some power ∧ Audible power ∧ Audible captured ∧
    (power.isInfinite = true ∨ captured.isInfinite = true)

/-- The loss between powers of frames is finite exactly if it is not computed from an infinite
one. -/
theorem isFinite_echoLoss_iff {samples others : List Binary32}
    (hrendered : Gauges samples frameSquares rendered)
    (hcaptured : Gauges others frameSquares captured) :
    (echoLoss (some rendered) captured).isFinite = true ↔
      ¬Overloaded (some rendered) captured := by
  have hloss : echoLoss (some rendered) captured =
      if Audible rendered ∧ Audible captured then 10 * (rendered / captured).log10 else 0 := rfl
  rw [hloss]
  by_cases haudible : Audible rendered ∧ Audible captured
  · rw [if_pos haudible]
    -- What is not a number is not audible, so the powers are finite or infinite.
    cases hrendered with
    | nan _ => exact absurd haudible.1 (not_audible_of_isNaN isNaN_nan)
    | infinite _ _ =>
      have hoverloaded : Overloaded (some (infinity false)) captured :=
        ⟨_, rfl, haudible.1, haudible.2, .inl (isInfinite_infinity false)⟩
      refine iff_of_false ?_ (not_not_intro hoverloaded)
      cases hcaptured with
      | nan _ => exact absurd haudible.2 (not_audible_of_isNaN isNaN_nan)
      | infinite _ _ => decide +kernel
      | finite _ hsign hwithin =>
        rw [infinity_div false hwithin.isFinite, hsign]
        decide +kernel
    | finite _ hsign hwithin =>
      cases hcaptured with
      | nan _ => exact absurd haudible.2 (not_audible_of_isNaN isNaN_nan)
      | infinite _ _ =>
        have hoverloaded : Overloaded (some rendered) (infinity false) :=
          ⟨_, rfl, haudible.1, haudible.2, .inr (isInfinite_infinity false)⟩
        refine iff_of_false ?_ (not_not_intro hoverloaded)
        rw [div_infinity false hwithin.isFinite, hsign]
        decide +kernel
      | finite _ _ hwithin' =>
        refine iff_of_true (isFinite_loss hwithin hwithin' haudible.1 haudible.2) ?_
        rintro ⟨_, ⟨⟩, -, -, hinfinite | hinfinite⟩
        · rw [isInfinite_of_isFinite hwithin.isFinite] at hinfinite
          cases hinfinite
        · rw [isInfinite_of_isFinite hwithin'.isFinite] at hinfinite
          cases hinfinite
  · rw [if_neg haudible]
    refine iff_of_true isFinite_zero ?_
    rintro ⟨_, ⟨⟩, hrendered, hcaptured, -⟩
    exact haudible ⟨hrendered, hcaptured⟩

/-- With an echo canceller the loss is reported. -/
theorem echoReturnLoss_echoReport {config : Config}
    (hcanceller : config.echoCanceller.isSome = true) (delayMs : Int32)
    (rendered : Option Binary64) (captured : Binary64) :
    (echoReport config delayMs rendered captured).echoReturnLoss = echoLoss rendered captured := by
  rw [echoReport, Option.isNone_eq_false_iff.mpr hcanceller, if_neg Bool.false_ne_true]

/-- The loss in a report on powers of frames is finite exactly if there is no echo canceller or the
loss is not computed from an infinite power. -/
theorem isFinite_echoReport_iff (config : Config) (delayMs : Int32) {rendered : Option Binary64}
    {captured : Binary64} {samples : List Binary32}
    (hrendered : ∀ power, rendered = some power → ∃ samples, Gauges samples frameSquares power)
    (hcaptured : Gauges samples frameSquares captured) :
    (echoReport config delayMs rendered captured).echoReturnLoss.isFinite = true ↔
      ¬(config.echoCanceller.isSome = true ∧ Overloaded rendered captured) := by
  cases hcanceller : config.echoCanceller.isSome with
  | false =>
    have hreport : (echoReport config delayMs rendered captured).echoReturnLoss = 0 := by
      rw [echoReport, Option.isSome_eq_false_iff.mp hcanceller, if_pos rfl]
    rw [hreport]
    exact iff_of_true isFinite_zero fun hboth => Bool.noConfusion hboth.1
  | true =>
    rw [echoReturnLoss_echoReport hcanceller, eq_self_iff_true, true_and]
    cases rendered with
    | none =>
      refine iff_of_true isFinite_zero ?_
      rintro ⟨_, ⟨⟩, -⟩
    | some power =>
      obtain ⟨_, hpower⟩ := hrendered power rfl
      exact isFinite_echoLoss_iff hpower hcaptured

end Bypass

end VoiceProcessing
