import Mathlib.Data.EReal.Operations
import Mathlib.Tactic.FieldSimp
import Mathlib.Tactic.Linarith
import Mathlib.Tactic.Ring
import VoiceProcessing.Proofs.RoundingOrder

/-!
# What numbers stand for

A finite number stands for a real one, and an infinity lies beyond all of them. Comparing two
numbers compares what they stand for, and clamping a number clamps what it stands for, the
infinities included.

Rounding to an integer misses the number by at most one half, and rounding to a code misses the
exact result by at most one half of the power of two that is rounded to. So a product whose exact
magnitude is bounded misses it by at most a known power of two.
-/

namespace VoiceProcessing

namespace Format

variable {f : Format}

/-- A natural number that is at most one half away from a quotient, said without division. -/
theorem abs_sub_div_le {num den n : Nat} (hden : 0 < den) (hleast : 2 * num ≤ 2 * (den * n) + den)
    (hmost : 2 * (den * n) ≤ 2 * num + den) : |(n : ℝ) - num / den| ≤ 1 / 2 := by
  have hpos : (0 : ℝ) < den := Nat.cast_pos.mpr hden
  have hleast' : 2 * (num : ℝ) ≤ 2 * (den * n) + den := by exact_mod_cast hleast
  have hmost' : 2 * (den * n : ℝ) ≤ 2 * num + den := by exact_mod_cast hmost
  have hdistance : (n : ℝ) - num / den = (den * n - num) / den := by field_simp
  rw [hdistance, abs_div, abs_of_pos hpos, div_le_iff₀ hpos, abs_le]
  constructor <;> linarith

/-- The nearest natural number is at most one half away. -/
theorem abs_nearestEven_sub_le (num : Nat) {den : Nat} (hden : 0 < den) :
    |(nearestEven num den : ℝ) - num / den| ≤ 1 / 2 := by
  have hsum := Nat.div_add_mod num den
  have hrest := Nat.mod_lt num hden
  apply abs_sub_div_le hden
  all_goals
    unfold nearestEven
    dsimp only
    split
    · omega
    · rw [Nat.mul_succ]
      omega

/-- A magnitude of so many binary digits needs so few doublings. -/
theorem doublings_le {num den doublings : Nat}
    (hlt : num < den * 2 ^ (f.fractionBits + 1 + doublings)) : f.doublings num den ≤ doublings := by
  have hquotient : num / den < 2 ^ (f.fractionBits + 1 + doublings) := Nat.div_lt_of_lt_mul hlt
  have hdef : f.doublings num den = (num / den).log2 - f.fractionBits := rfl
  rcases Nat.eq_zero_or_pos (num / den) with hzero | hpos
  · rw [hdef, hzero, Nat.log2_zero, Nat.zero_sub]
    exact Nat.zero_le _
  · have hlog := (Nat.log2_lt (Nat.ne_of_gt hpos)).mpr hquotient
    omega

/-- The nearest code misses by at most half of the power of two that is rounded to. -/
theorem abs_units_roundNat_sub_le {num den doublings : Nat} (hden : 0 < den)
    (hfinite : f.roundNat num den < f.infinityCode)
    (hlt : num < den * 2 ^ (f.fractionBits + 1 + doublings)) :
    |(f.units (f.roundNat num den) : ℝ) - num / den| ≤ 2 ^ doublings / 2 := by
  obtain ⟨hround, hmost, hleast⟩ := f.roundNat_eq num hden
  have hfew : f.doublings num den ≤ doublings := doublings_le hlt
  generalize f.doublings num den = few at hround hmost hleast hfew
  have hnear := abs_nearestEven_sub_le num (Nat.mul_pos hden (Nat.two_pow_pos few))
  rw [hround] at hfinite
  rw [hround, Nat.min_eq_right (by omega), units_code hmost hleast]
  generalize nearestEven num (den * 2 ^ few) = significand at hnear
  have hpos : (0 : ℝ) < 2 ^ few := by positivity
  have hscaled : ((significand * 2 ^ few : Nat) : ℝ) - num / den =
      2 ^ few * (significand - num / (den * 2 ^ few : Nat)) := by
    push_cast
    field_simp
  calc
    _ = 2 ^ few * |(significand : ℝ) - num / (den * 2 ^ few : Nat)| := by
      rw [hscaled, abs_mul, abs_of_pos hpos]
    _ ≤ 2 ^ few * (1 / 2) := mul_le_mul_of_nonneg_left hnear hpos.le
    _ = 2 ^ few / 2 := by ring
    _ ≤ 2 ^ doublings / 2 := by gcongr; exact one_le_two

end Format

namespace Binary

variable {f : Format} {x y : Binary f}

/-- The real number that a finite number stands for. -/
noncomputable def toReal (x : Binary f) : ℝ :=
  x.signedUnits / f.unity

/-- The extended real number that a number stands for, infinities included; zero, by convention, for
what is not a number. -/
noncomputable def toEReal (x : Binary f) : EReal :=
  if x.isNaN then 0
  else if x.isInfinite then if x.negative then ⊥ else ⊤
  else x.toReal

/-- Finite numbers stand for real ones. -/
theorem toEReal_of_isFinite (hx : x.isFinite = true) : x.toEReal = x.toReal := by
  simp only [toEReal, isNaN_of_isFinite hx, isInfinite_of_isFinite hx, Bool.false_eq_true, if_false]

/-- Infinities stand for the ends. -/
theorem toEReal_infinity (negative : Bool) :
    (infinity negative : Binary f).toEReal = if negative then ⊥ else ⊤ := by
  simp only [toEReal, isNaN_infinity, isInfinite_infinity, Bool.false_eq_true, if_false, if_true]
  rfl

/-- Infinities have the outermost places. -/
theorem rank_infinity (negative : Bool) :
    (infinity negative : Binary f).rank = signed negative f.infinityCode :=
  rfl

/-- Finite numbers lie between them. -/
theorem rank_of_isFinite (hx : x.isFinite = true) :
    -(f.infinityCode : Int) < x.rank ∧ x.rank < f.infinityCode := by
  have hcode : x.code.val < f.infinityCode := of_decide_eq_true hx
  rw [← natAbs_rank] at hcode
  omega

/-- Finite numbers are in the order of the real ones. -/
theorem toReal_le_iff : x.toReal ≤ y.toReal ↔ x.signedUnits ≤ y.signedUnits := by
  have hpos : (0 : ℝ) < f.unity := Nat.cast_pos.mpr f.unity_pos
  rw [toReal, toReal, div_le_div_iff_of_pos_right hpos, Int.cast_le]

/-- A value that is a number is finite or an infinity. -/
theorem isFinite_or_eq_infinity (hx : x.isNaN = false) :
    x.isFinite = true ∨ ∃ negative, x = infinity negative := by
  rcases isFinite_or x with hfinite | hinfinite | hnan
  · exact .inl hfinite
  · exact .inr ⟨_, eq_infinity hinfinite⟩
  · simp [hx] at hnan

/-- Numbers are in the order of what they stand for. -/
theorem toEReal_lt_iff (hx : x.isNaN = false) (hy : y.isNaN = false) :
    x.toEReal < y.toEReal ↔ x.rank < y.rank := by
  have hcode : 0 < f.infinityCode := by cases f <;> decide
  -- Infinities lie beyond all finite numbers, so only finite ones have to be compared.
  rcases isFinite_or_eq_infinity hx with hx | ⟨s, rfl⟩ <;>
    rcases isFinite_or_eq_infinity hy with hy | ⟨t, rfl⟩
  · rw [toEReal_of_isFinite hx, toEReal_of_isFinite hy, EReal.coe_lt_coe_iff, ← not_le,
      toReal_le_iff, not_le, signedUnits_lt_iff]
  · have hrank := rank_of_isFinite hx
    rw [toEReal_of_isFinite hx, toEReal_infinity, rank_infinity]
    cases t <;> simp [signed] <;> omega
  · have hrank := rank_of_isFinite hy
    rw [toEReal_of_isFinite hy, toEReal_infinity, rank_infinity]
    cases s <;> simp [signed] <;> omega
  · rw [toEReal_infinity, toEReal_infinity, rank_infinity, rank_infinity]
    cases s <;> cases t <;> simp [signed, hcode]

/-- Those of equal places, such as the two zeros, stand for the same. -/
theorem toEReal_le_iff (hx : x.isNaN = false) (hy : y.isNaN = false) :
    x.toEReal ≤ y.toEReal ↔ x.rank ≤ y.rank := by
  rw [← not_lt, toEReal_lt_iff hy hx, not_lt]

/-- Comparing numbers compares what they stand for. -/
theorem less_iff (hx : x.isNaN = false) (hy : y.isNaN = false) :
    x.less y = true ↔ x.toEReal < y.toEReal := by
  rw [toEReal_lt_iff hx hy, less, hx, hy, Bool.not_false, Bool.true_and, Bool.true_and,
    decide_eq_true_eq]

/-- Clamping a number clamps what it stands for. -/
theorem toEReal_clamp {low high : Binary f} (hx : x.isNaN = false) (hlow : low.isNaN = false)
    (hhigh : high.isNaN = false) (hle : low.toEReal ≤ high.toEReal) :
    (x.clamp low high).toEReal = max low.toEReal (min high.toEReal x.toEReal) := by
  unfold clamp
  simp only [less_iff hx hlow, less_iff hhigh hx]
  split
  case isTrue hbelow => exact (max_eq_left ((min_le_right _ _).trans hbelow.le)).symm
  case isFalse hbelow =>
    split
    case isTrue habove => rw [min_eq_left habove.le, max_eq_right hle]
    case isFalse habove => rw [min_eq_right (not_lt.mp habove), max_eq_right (not_lt.mp hbelow)]

/-- The sign of a difference does not matter for how great it is. -/
theorem abs_signed_sub (negative : Bool) (m n : Nat) (c d : ℝ) :
    |(signed negative m : ℝ) / c - signed negative n / d| = |(m : ℝ) / c - n / d| := by
  cases negative
  · simp [signed]
  · rw [← abs_neg]
    congr 1
    simp only [signed, if_true, Int.cast_neg, Int.cast_natCast]
    ring

/-- A product of magnitudes has the product of the signs. -/
theorem signed_mul_signed (s t : Bool) (m n : Nat) :
    signed s m * signed t n = signed (s != t) (m * n) := by
  cases s <;> cases t <;> simp [signed]

/-- The nearest integer is at most one half away. -/
theorem abs_roundHalfAway_sub_le (x : Binary f) : |(x.roundHalfAway : ℝ) - x.toReal| ≤ 1 / 2 := by
  have hpos := f.unity_pos
  have hsigned : x.roundHalfAway = signed x.negative ((2 * x.units + f.unity) / (2 * f.unity)) :=
    rfl
  have hnear :=
    abs_signed_sub x.negative ((2 * x.units + f.unity) / (2 * f.unity)) x.units 1 f.unity
  rw [div_one, div_one] at hnear
  rw [hsigned, toReal, signedUnits, ← signed, hnear]
  have hsum := Nat.div_add_mod (2 * x.units + f.unity) (2 * f.unity)
  have hrest := Nat.mod_lt (2 * x.units + f.unity) (Nat.mul_pos Nat.two_pos hpos)
  rw [Nat.mul_assoc] at hsum
  apply Format.abs_sub_div_le hpos <;> omega

/-- A finite product misses the exact one by at most half of the power of two it is rounded to. -/
theorem abs_toReal_mul_sub_le {doublings : Nat} (hx : x.isFinite = true) (hy : y.isFinite = true)
    (hfinite : (x * y).isFinite = true)
    (hlt : x.units * y.units < f.unity * 2 ^ (f.fractionBits + 1 + doublings)) :
    |(x * y).toReal - x.toReal * y.toReal| ≤ 2 ^ doublings / 2 / f.unity := by
  have hpos : (0 : ℝ) < f.unity := Nat.cast_pos.mpr f.unity_pos
  have hexact : x.toReal * y.toReal =
      (signed (x.negative != y.negative) (x.units * y.units) : ℝ) / (f.unity * f.unity) := by
    rw [← signed_mul_signed, Int.cast_mul, ← div_mul_div_comm]
    rfl
  rw [mul_eq_round hx hy] at hfinite ⊢
  have hnear := Format.abs_units_roundNat_sub_le f.unity_pos (of_decide_eq_true hfinite) hlt
  have hsigned := abs_signed_sub (x.negative != y.negative)
    (f.units (f.roundNat (x.units * y.units) f.unity)) (x.units * y.units) f.unity
    (f.unity * f.unity)
  rw [hexact]
  refine hsigned.trans_le ?_
  rw [← div_div, ← sub_div, abs_div, abs_of_pos hpos]
  gcongr

/-- The opposite number stands for the opposite real one. -/
theorem toReal_neg (x : Binary f) : (-x).toReal = -x.toReal := by
  have hsigned : (-x).signedUnits = -x.signedUnits := signed_not x.negative x.units
  rw [toReal, hsigned, Int.cast_neg, neg_div, toReal]

/-- A small integer is read as itself. -/
theorem toReal_ofInt {z : Int} (hz : z.natAbs ≤ 2 ^ f.fractionBits) :
    (ofInt z : Binary f).toReal = z := by
  have hpos : (f.unity : ℝ) ≠ 0 := Nat.cast_ne_zero.mpr (Nat.ne_of_gt f.unity_pos)
  have hsigned : (ofInt z : Binary f).signedUnits = z * f.unity := by
    have hnegative : (ofInt z : Binary f).negative = decide (z < 0) := rfl
    simp only [signedUnits, (exactly_ofInt hz).units_eq, hnegative, decide_eq_true_eq, Nat.cast_mul]
    split
    · rw [← neg_mul, Int.ofNat_natAbs_of_nonpos (by omega), neg_neg]
    · rw [Int.natAbs_of_nonneg (by omega)]
  rw [toReal, hsigned, Int.cast_mul, Int.cast_natCast, mul_div_cancel_right₀ _ hpos]

end Binary

end VoiceProcessing
