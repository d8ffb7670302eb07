import Mathlib.Algebra.Group.Nat.Defs
import VoiceProcessing.Binary.Logarithm
import VoiceProcessing.Proofs.SpecialValues

/-!
# Bounds that survive rounding

The exact result of an operation is rounded to a multiple of some power of two. A bound that is
itself such a multiple is not exceeded by rounding, so sums of many terms can be bounded without an
account of the errors: it suffices that the exact sum stays below a bound of few digits. The other
way round, a result that is at least such a bound is not rounded below it.

All magnitudes are counted in units.
-/

namespace VoiceProcessing

namespace Format

variable {f : Format}

/-- Rounding to a natural number does not exceed one that is large enough. -/
theorem nearestEven_le {num den bound : Nat} (hden : 0 < den) (hle : num ≤ den * bound) :
    nearestEven num den ≤ bound := by
  have hquotient : num / den ≤ bound := Nat.div_le_of_le_mul hle
  rcases Nat.lt_or_eq_of_le hquotient with hlt | heq
  · unfold nearestEven
    dsimp only
    split <;> omega
  · -- Nothing is left over, so the quotient is not rounded up.
    have hsum := Nat.div_add_mod num den
    rw [heq] at hsum
    have hrest : num % den = 0 := by omega
    simp only [nearestEven, hrest, heq, Nat.mul_zero, hden, true_or, if_true]
    exact Nat.le_refl bound

/-- Nor does it fall below one that is small enough. -/
theorem le_nearestEven {num den bound : Nat} (hden : 0 < den) (hle : den * bound ≤ num) :
    bound ≤ nearestEven num den := by
  have hquotient : bound ≤ num / den := (Nat.le_div_iff_mul_le hden).mpr (Nat.mul_comm den _ ▸ hle)
  unfold nearestEven
  dsimp only
  split <;> omega

/-- A significand and the doublings that go with it are put together to a code of their value, also
if the significand has been rounded up to a power of two. -/
theorem units_code {doublings significand : Nat} (hmost : significand ≤ 2 ^ (f.fractionBits + 1))
    (hleast : doublings = 0 ∨ 2 ^ f.fractionBits ≤ significand) :
    f.units (doublings * 2 ^ f.fractionBits + significand) = significand * 2 ^ doublings := by
  have hpos : 0 < 2 ^ f.fractionBits := Nat.two_pow_pos _
  rw [Nat.pow_succ] at hmost
  simp only [units, Nat.pow_eq]
  generalize 2 ^ f.fractionBits = one at hpos hmost hleast ⊢
  -- The significand is below one, or below two, or has reached two.
  obtain ⟨carry, rest, hrest, rfl⟩ : ∃ carry rest, rest < one ∧ significand = carry * one + rest :=
    ⟨significand / one, significand % one, Nat.mod_lt _ hpos, (Nat.div_add_mod' _ _).symm⟩
  have hdiv : (doublings * one + (carry * one + rest)) / one = doublings + carry := by
    rw [← Nat.add_assoc, ← Nat.add_mul, Nat.mul_comm, Nat.mul_add_div hpos, Nat.div_eq_of_lt hrest,
      Nat.add_zero]
  have hmod : (doublings * one + (carry * one + rest)) % one = rest := by
    rw [← Nat.add_assoc, ← Nat.add_mul, Nat.mul_comm, Nat.mul_add_mod, Nat.mod_eq_of_lt hrest]
  have hcarry : carry ≤ 2 := by
    refine Nat.le_of_mul_le_mul_right ?_ hpos
    rw [Nat.mul_comm 2]
    exact Nat.le_trans (Nat.le_add_right _ _) hmost
  rw [hdiv, hmod]
  obtain rfl | rfl | rfl : carry = 0 ∨ carry = 1 ∨ carry = 2 := by omega
  · have hzero : doublings = 0 := hleast.resolve_right (by omega)
    simp [hzero]
  · rw [if_neg (Nat.succ_ne_zero doublings), Nat.add_sub_cancel, Nat.one_mul]
  · have hnone : rest = 0 := by omega
    have hexponent : doublings + 2 - 1 = doublings + 1 := by omega
    simp only [hnone, Nat.add_zero]
    rw [if_neg (Nat.succ_ne_zero (doublings + 1)), hexponent, Nat.pow_succ, Nat.mul_comm 2 one,
      Nat.mul_assoc, Nat.mul_comm 2]

/-- What rounding puts together: doublings and a significand, which is normal unless there are no
doublings. -/
theorem roundNat_eq (f : Format) (num : Nat) {den : Nat} (hden : 0 < den) :
    let doublings := f.doublings num den
    let significand := nearestEven num (den * 2 ^ doublings)
    f.roundNat num den =
        min f.infinityCode (doublings * 2 ^ f.fractionBits + significand) ∧
      significand ≤ 2 ^ (f.fractionBits + 1) ∧
      (doublings = 0 ∨ 2 ^ f.fractionBits ≤ significand) := by
  intro doublings significand
  have hscaled : 0 < den * 2 ^ doublings := Nat.mul_pos hden (Nat.two_pow_pos _)
  refine ⟨rfl, ?_, ?_⟩
  · apply nearestEven_le hscaled
    have hlog : num / den < 2 ^ ((num / den).log2 + 1) := Nat.lt_log2_self
    have hexponent : (num / den).log2 + 1 ≤ doublings + (f.fractionBits + 1) := by
      have hdoublings : doublings = (num / den).log2 - f.fractionBits := rfl
      omega
    have hquotient : num / den < 2 ^ (doublings + (f.fractionBits + 1)) :=
      Nat.lt_of_lt_of_le hlog (Nat.pow_le_pow_right Nat.two_pos hexponent)
    rw [Nat.mul_assoc, ← Nat.pow_add, Nat.mul_comm]
    exact Nat.le_of_lt ((Nat.div_lt_iff_lt_mul hden).mp hquotient)
  · rcases Nat.eq_zero_or_pos doublings with hzero | hpos
    · exact .inl hzero
    · right
      apply le_nearestEven hscaled
      have hdoublings : doublings + f.fractionBits = (num / den).log2 := by
        have hdef : doublings = (num / den).log2 - f.fractionBits := rfl
        omega
      have hquotient : num / den ≠ 0 := by
        intro hzero
        rw [hzero, Nat.log2_zero] at hdoublings
        omega
      rw [Nat.mul_assoc, ← Nat.pow_add, hdoublings]
      exact Nat.le_trans (Nat.mul_le_mul_left den (Nat.log2_self_le hquotient))
        (Nat.mul_div_le num den)

/-- A bound of few digits is not exceeded by rounding, and a magnitude with such a bound does not
become infinite. -/
theorem units_roundNat_le {num den digits exponent : Nat} (hden : 0 < den)
    (hdigits : digits ≤ 2 ^ f.fractionBits) (hexponent : exponent + 3 < 2 ^ f.exponentBits)
    (hle : num ≤ den * (digits * 2 ^ exponent)) :
    f.roundNat num den < f.infinityCode ∧
      f.units (f.roundNat num den) ≤ digits * 2 ^ exponent := by
  obtain ⟨hround, hmost, hleast⟩ := f.roundNat_eq num hden
  -- The bound is a multiple of the power of two that is rounded to.
  have hdoublings : f.doublings num den ≤ exponent := by
    have hquotient : num / den ≤ 2 ^ (f.fractionBits + exponent) := by
      rw [Nat.pow_add]
      exact Nat.le_trans (Nat.div_le_of_le_mul hle) (Nat.mul_le_mul_right _ hdigits)
    have hlog : (num / den).log2 ≤ f.fractionBits + exponent := by
      rcases Nat.eq_zero_or_pos (num / den) with hzero | hpos
      · rw [hzero, Nat.log2_zero]
        exact Nat.zero_le _
      · rw [← Nat.lt_succ_iff, Nat.log2_lt (Nat.ne_of_gt hpos)]
        exact Nat.lt_of_le_of_lt hquotient (Nat.pow_lt_pow_succ Nat.one_lt_two)
    have hdef : f.doublings num den = (num / den).log2 - f.fractionBits := rfl
    omega
  generalize f.doublings num den = doublings at hround hmost hleast hdoublings
  have hsignificand : nearestEven num (den * 2 ^ doublings) ≤
      digits * 2 ^ (exponent - doublings) := by
    apply nearestEven_le (Nat.mul_pos hden (Nat.two_pow_pos _))
    rwa [Nat.mul_assoc, Nat.mul_left_comm (2 ^ doublings), ← Nat.pow_add,
      Nat.add_sub_cancel' hdoublings]
  have hcode : doublings * 2 ^ f.fractionBits + nearestEven num (den * 2 ^ doublings) <
      f.infinityCode := by
    have hinfinity : f.infinityCode = (2 ^ f.exponentBits - 1) * 2 ^ f.fractionBits := rfl
    have hroom : (doublings + 3) * 2 ^ f.fractionBits ≤ f.infinityCode := by
      rw [hinfinity]
      exact Nat.mul_le_mul_right _ (by omega)
    have hpos : 0 < 2 ^ f.fractionBits := Nat.two_pow_pos _
    rw [Nat.add_mul] at hroom
    rw [Nat.pow_succ] at hmost
    omega
  rw [hround, Nat.min_eq_right (Nat.le_of_lt hcode), units_code hmost hleast]
  refine ⟨hcode, ?_⟩
  calc
    nearestEven num (den * 2 ^ doublings) * 2 ^ doublings
      ≤ digits * 2 ^ (exponent - doublings) * 2 ^ doublings := Nat.mul_le_mul_right _ hsignificand
    _ = digits * 2 ^ exponent := by
      rw [Nat.mul_assoc, ← Nat.pow_add, Nat.sub_add_cancel hdoublings]

/-- Nor does a magnitude of at least such a bound fall below it. -/
theorem le_units_roundNat {num den digits exponent : Nat} (hden : 0 < den)
    (hdigits : digits ≤ 2 ^ f.fractionBits) (hle : den * (digits * 2 ^ exponent) ≤ num)
    (hfinite : f.roundNat num den < f.infinityCode) :
    digits * 2 ^ exponent ≤ f.units (f.roundNat num den) := by
  obtain ⟨hround, hmost, hleast⟩ := f.roundNat_eq num hden
  generalize f.doublings num den = doublings at hround hmost hleast
  rw [hround] at hfinite ⊢
  rw [Nat.min_eq_right (by omega), units_code hmost hleast]
  rcases Nat.lt_or_ge exponent doublings with hlt | hge
  · have hnormal : 2 ^ f.fractionBits ≤ nearestEven num (den * 2 ^ doublings) :=
      hleast.resolve_left (Nat.ne_of_gt (Nat.zero_lt_of_lt hlt))
    exact Nat.mul_le_mul (Nat.le_trans hdigits hnormal)
      (Nat.pow_le_pow_right Nat.two_pos (Nat.le_of_lt hlt))
  · have hsignificand :
        digits * 2 ^ (exponent - doublings) ≤ nearestEven num (den * 2 ^ doublings) := by
      apply le_nearestEven (Nat.mul_pos hden (Nat.two_pow_pos _))
      rwa [Nat.mul_assoc, Nat.mul_left_comm (2 ^ doublings), ← Nat.pow_add,
        Nat.add_sub_cancel' hge]
    calc
      digits * 2 ^ exponent = digits * 2 ^ (exponent - doublings) * 2 ^ doublings := by
        rw [Nat.mul_assoc, ← Nat.pow_add, Nat.sub_add_cancel hge]
      _ ≤ _ := Nat.mul_le_mul_right _ hsignificand

/-- In particular, a magnitude of at least a power of two is not rounded below it. -/
theorem two_pow_le_units_roundNat {num den exponent : Nat} (hden : 0 < den)
    (hle : den * 2 ^ exponent ≤ num) (hfinite : f.roundNat num den < f.infinityCode) :
    2 ^ exponent ≤ f.units (f.roundNat num den) := by
  rw [← Nat.one_mul (2 ^ exponent)] at hle ⊢
  exact le_units_roundNat hden Nat.one_le_two_pow hle hfinite

/-- One is some units. -/
theorem unity_pos (f : Format) : 0 < f.unity :=
  Nat.two_pow_pos _

/-- One is a power of two of them. -/
theorem unity_eq (f : Format) : f.unity = 2 ^ f.scale :=
  rfl

/-- Infinity begins at this power of two. -/
def span (f : Format) : Nat :=
  f.fractionBits + (2 ^ f.exponentBits - 2)

/-- The logarithm of the unity is among those of the finite numbers. -/
theorem scale_le_span (f : Format) : f.scale ≤ f.span := by
  cases f <;> decide

/-- Finite numbers stay below the power of two at which infinity begins. -/
theorem units_lt {code : Nat} (hfinite : code < f.infinityCode) : f.units code < 2 ^ f.span := by
  have hpos : 0 < 2 ^ f.fractionBits := Nat.two_pow_pos _
  have hexponent : code / 2 ^ f.fractionBits < 2 ^ f.exponentBits - 1 := Nat.div_lt_of_lt_mul
    (Nat.lt_of_lt_of_eq hfinite (Nat.mul_comm _ _))
  have hrest : code % 2 ^ f.fractionBits < 2 ^ f.fractionBits := Nat.mod_lt _ hpos
  simp only [units, Nat.pow_eq]
  generalize code / 2 ^ f.fractionBits = exponent at hexponent ⊢
  generalize code % 2 ^ f.fractionBits = fraction at hrest ⊢
  by_cases hzero : exponent = 0
  · rw [if_pos hzero]
    exact Nat.lt_of_lt_of_le hrest (Nat.pow_le_pow_right Nat.two_pos (Nat.le_add_right _ _))
  · rw [if_neg hzero]
    calc
      (2 ^ f.fractionBits + fraction) * 2 ^ (exponent - 1)
        < 2 ^ (f.fractionBits + 1) * 2 ^ (exponent - 1) :=
          Nat.mul_lt_mul_of_pos_right (by rw [Nat.pow_succ]; omega) (Nat.two_pow_pos _)
      _ = 2 ^ (f.fractionBits + exponent) := by
        rw [← Nat.pow_add]
        congr 1
        omega
      _ ≤ _ := Nat.pow_le_pow_right Nat.two_pos (by unfold span; omega)

/-- A code with some exponent stands for at least the power of two of that exponent. -/
theorem two_pow_le_units {code exponent : Nat} (hle : (exponent + 1) * 2 ^ f.fractionBits ≤ code) :
    2 ^ (f.fractionBits + exponent) ≤ f.units code := by
  have hexponent : exponent + 1 ≤ code / 2 ^ f.fractionBits :=
    (Nat.le_div_iff_mul_le (Nat.two_pow_pos _)).mpr hle
  simp only [units, Nat.pow_eq]
  rw [if_neg (by omega), Nat.pow_add]
  exact Nat.mul_le_mul (Nat.le_add_right _ _) (Nat.pow_le_pow_right Nat.two_pos (by omega))

end Format

namespace Binary

variable {f : Format} {x y : Binary f}

/-- A finite number of at most so many units. -/
structure Within (bound : Nat) (x : Binary f) : Prop where
  isFinite : x.isFinite = true
  units_le : x.units ≤ bound

/-- A greater bound is a bound. -/
theorem Within.mono {a b : Nat} (hx : Within a x) (hle : a ≤ b) : Within b x :=
  ⟨hx.isFinite, Nat.le_trans hx.units_le hle⟩

/-- A zero is within every bound. -/
theorem within_zero (bound : Nat) (negative : Bool) : Within bound (zero negative : Binary f) where
  isFinite := by cases f <;> cases negative <;> decide
  units_le := by
    have hnone : (zero negative : Binary f).units = 0 := by simp [units, zero, Format.units]
    rw [hnone]
    exact Nat.zero_le bound

/-- A bound of so few digits, and so low an exponent, that no rounding exceeds it. -/
structure Short (f : Format) (digits exponent : Nat) : Prop where
  digits_le : digits ≤ 2 ^ f.fractionBits
  exponent_lt : exponent + 3 < 2 ^ f.exponentBits

variable {digits exponent : Nat}

/-- A quotient is rounded within such a bound. -/
theorem within_round (hshort : Short f digits exponent) (negative : Bool) {num den : Nat}
    (hden : 0 < den) (hle : num ≤ den * (digits * 2 ^ exponent)) :
    Within (digits * 2 ^ exponent) (⟨negative, f.round num den⟩ : Binary f) := by
  obtain ⟨hfinite, hunits⟩ :=
    Format.units_roundNat_le hden hshort.digits_le hshort.exponent_lt hle
  exact ⟨decide_eq_true hfinite, hunits⟩

/-- The magnitude of a sum is at most the sum of the magnitudes. -/
theorem natAbs_signedUnits_add_le (x y : Binary f) :
    (x.signedUnits + y.signedUnits).natAbs ≤ x.units + y.units := by
  have hx : x.signedUnits.natAbs = x.units := by
    unfold signedUnits
    split <;> simp
  have hy : y.signedUnits.natAbs = y.units := by
    unfold signedUnits
    split <;> simp
  rw [← hx, ← hy]
  exact Int.natAbs_add_le _ _

/-- The sum of two bounded numbers. -/
theorem Within.add {a b : Nat} (hx : Within a x) (hy : Within b y)
    (hshort : Short f digits exponent) (hle : a + b ≤ digits * 2 ^ exponent) :
    Within (digits * 2 ^ exponent) (x + y) := by
  rw [add_eq_round hx.isFinite hy.isFinite]
  dsimp only
  split
  · exact within_zero _ _
  · apply within_round hshort _ Nat.one_pos
    rw [Nat.one_mul]
    exact Nat.le_trans (natAbs_signedUnits_add_le x y)
      (Nat.le_trans (Nat.add_le_add hx.units_le hy.units_le) hle)

/-- The product of two bounded numbers. -/
theorem Within.mul {a b : Nat} (hx : Within a x) (hy : Within b y)
    (hshort : Short f digits exponent) (hle : a * b ≤ f.unity * (digits * 2 ^ exponent)) :
    Within (digits * 2 ^ exponent) (x * y) := by
  rw [mul_eq_round hx.isFinite hy.isFinite]
  exact within_round hshort _ f.unity_pos
    (Nat.le_trans (Nat.mul_le_mul hx.units_le hy.units_le) hle)

/-- The quotient of a bounded number by one of some magnitude. -/
theorem Within.div {a c : Nat} (hx : Within a x) (hy : y.isFinite = true)
    (hpos : 0 < y.units) (hc : c ≤ y.units) (hshort : Short f digits exponent)
    (hle : a * f.unity ≤ c * (digits * 2 ^ exponent)) :
    Within (digits * 2 ^ exponent) (x / y) := by
  rw [div_eq_round hx.isFinite hy hpos]
  apply within_round hshort _ hpos
  exact Nat.le_trans (Nat.mul_le_mul_right _ hx.units_le)
    (Nat.le_trans hle (Nat.mul_le_mul_right _ hc))

/-- A bounded number in another format. -/
theorem Within.convert {g : Format} {a : Nat} (hx : Within a x) (hshort : Short g digits exponent)
    (hle : a * g.unity ≤ f.unity * (digits * 2 ^ exponent)) :
    Within (digits * 2 ^ exponent) (x.convert g) := by
  simp only [Binary.convert, isNaN_of_isFinite hx.isFinite, isInfinite_of_isFinite hx.isFinite,
    Bool.false_eq_true, if_false]
  exact within_round hshort _ f.unity_pos
    (Nat.le_trans (Nat.mul_le_mul_right _ hx.units_le) hle)

/-- The unity is low enough for bounds. -/
theorem short_unity {n : Nat} (hn : n ≤ 2 ^ f.fractionBits) : Short f n f.scale :=
  ⟨hn, by cases f <;> decide⟩

/-- A number that is read from an integer is within the bounds of the integer. -/
theorem within_ofInt {z : Int} {n : Nat} (hz : z.natAbs ≤ n) (hn : n ≤ 2 ^ f.fractionBits) :
    Within (n * f.unity) (ofInt z : Binary f) := by
  apply within_round (short_unity hn) _ Nat.one_pos
  rw [Nat.one_mul]
  exact Nat.mul_le_mul_right _ hz

/-- A count that is not zero is read as one at least. -/
theorem unity_le_units_ofInt {n : Nat} (hn : n ≤ 2 ^ f.fractionBits) (hpos : 0 < n) :
    f.unity ≤ (ofInt n : Binary f).units := by
  apply Format.two_pow_le_units_roundNat Nat.one_pos
  · rw [Int.natAbs_natCast, Nat.one_mul]
    exact Nat.le_mul_of_pos_left _ hpos
  · exact of_decide_eq_true (within_ofInt (Nat.le_refl n) hn).isFinite

/-- So it is not read as zero. -/
theorem units_ofInt_pos {n : Nat} (hn : n ≤ 2 ^ f.fractionBits) (hpos : 0 < n) :
    0 < (ofInt n : Binary f).units :=
  Nat.lt_of_lt_of_le f.unity_pos (unity_le_units_ofInt hn hpos)

/-- Counts are not negative. -/
theorem negative_ofInt (n : Nat) : (ofInt n : Binary f).negative = false :=
  decide_eq_false (Int.not_lt.mpr (Int.natCast_nonneg n))

end Binary

namespace Logarithm

/-- Digits after the point make less than one. -/
theorem digits_lt (n y : Nat) : digits n y < 2 ^ n := by
  induction n generalizing y with
  | zero => exact Nat.one_pos
  | succ n ih =>
    have hlater := ih (y * y / Nat.pow 2 precision)
    have hhalved := ih (y * y / Nat.pow 2 precision / 2)
    rw [digits, Nat.pow_succ]
    by_cases hreached : Nat.pow 2 (precision + 1) ≤ y * y / Nat.pow 2 precision
    · simp only [if_pos hreached]
      rw [Nat.pow_eq, Nat.mul_two]
      exact Nat.add_lt_add_left hhalved _
    · simp only [if_neg hreached]
      exact Nat.lt_of_lt_of_le hlater (Nat.le_mul_of_pos_right _ Nat.two_pos)

/-- The logarithm of a number of fewer than `2 ^ limit` units is at most `limit` in magnitude, if
one is among these numbers. -/
theorem natAbs_binary_le {scale limit units : Nat} (hpos : 0 < units) (hunits : units < 2 ^ limit)
    (hscale : scale ≤ limit) : (binary scale units).natAbs ≤ limit * 2 ^ places := by
  have hlog : units.log2 < limit := (Nat.log2_lt (Nat.ne_of_gt hpos)).mpr hunits
  have hdigits := digits_lt places (units * Nat.pow 2 precision / Nat.pow 2 units.log2)
  have hwhole : (units.log2 + 1) * 2 ^ places ≤ limit * 2 ^ places := Nat.mul_le_mul_right _ hlog
  have hone : scale * 2 ^ places ≤ limit * 2 ^ places := Nat.mul_le_mul_right _ hscale
  simp only [binary, Nat.pow_eq] at hdigits ⊢
  generalize digits places _ = fraction at hdigits ⊢
  generalize 2 ^ places = point at hdigits hwhole hone ⊢
  rw [Nat.add_mul, Nat.one_mul] at hwhole
  rw [Int.sub_mul, ← Int.natCast_mul, ← Int.natCast_mul]
  omega

end Logarithm

namespace Binary

variable {f : Format} {x : Binary f}

/-- The logarithm of a positive number is finite. -/
theorem within_log10 (hfinite : x.isFinite = true) (hsign : x.negative = false)
    (hpos : 0 < x.units) : Within (f.span * f.unity) x.log10 := by
  have hunits : x.units < 2 ^ f.span := Format.units_lt (of_decide_eq_true hfinite)
  have hbinary := Logarithm.natAbs_binary_le hpos hunits f.scale_le_span
  have htwo : Logarithm.ofTwo ≤ 2 ^ Logarithm.precision := by decide
  have hshort : Short f f.span f.scale := ⟨by cases f <;> decide, by cases f <;> decide⟩
  simp only [log10, isNaN_of_isFinite hfinite, isZero_of_units_pos hpos, hsign,
    isInfinite_of_isFinite hfinite, Bool.false_eq_true, if_false]
  apply within_round hshort _ (Nat.two_pow_pos _)
  calc
    _ ≤ f.span * 2 ^ Logarithm.places * 2 ^ Logarithm.precision * f.unity :=
      Nat.mul_le_mul_right _ (Nat.mul_le_mul hbinary htwo)
    _ = Nat.pow 2 (Logarithm.places + Logarithm.precision) * (f.span * f.unity) := by
      rw [Nat.pow_eq, Nat.pow_add, Nat.mul_assoc, Nat.mul_assoc f.span, Nat.mul_left_comm,
        Nat.mul_assoc, Nat.mul_left_comm f.span]

end Binary

end VoiceProcessing
