import Mathlib.Order.Monotone.Basic
import VoiceProcessing.Proofs.Rounding

/-!
# Exact results

A magnitude of few digits, at whatever power of two they begin, is a number of the format, and
rounding leaves it alone. Together with the bounds that survive rounding this tells an exact result
from one that is merely bounded.

Numbers are compared by their codes. Codes are in the order of what they stand for, so whoever knows
how many units two numbers have knows which of them is smaller.
-/

namespace VoiceProcessing

namespace Format

variable {f : Format}

/-- Every code is put together from doublings and a significand, as codes are in rounding. -/
theorem exists_significand (f : Format) (code : Nat) :
    ∃ doublings significand, code = doublings * 2 ^ f.fractionBits + significand ∧
      significand < 2 ^ (f.fractionBits + 1) ∧
      (doublings = 0 ∨ 2 ^ f.fractionBits ≤ significand) := by
  have hsplit := Nat.div_add_mod' code (2 ^ f.fractionBits)
  have hrest : code % 2 ^ f.fractionBits < 2 ^ f.fractionBits := Nat.mod_lt _ (Nat.two_pow_pos _)
  rw [Nat.pow_succ]
  generalize code % 2 ^ f.fractionBits = fraction at hsplit hrest
  generalize code / 2 ^ f.fractionBits = exponent at hsplit
  cases exponent with
  | zero => exact ⟨0, fraction, hsplit.symm, by omega, .inl rfl⟩
  | succ exponent =>
    refine ⟨exponent, 2 ^ f.fractionBits + fraction, ?_, by omega, .inr (Nat.le_add_right _ _)⟩
    rw [← hsplit, Nat.succ_mul, Nat.add_assoc]

/-- The next code stands for more. -/
theorem units_lt_units_succ (f : Format) (code : Nat) : f.units code < f.units (code + 1) := by
  obtain ⟨doublings, significand, rfl, hmost, hleast⟩ := f.exists_significand code
  rw [units_code (Nat.le_of_lt hmost) hleast, Nat.add_assoc,
    units_code hmost (hleast.imp_right (Nat.le_trans · (Nat.le_succ _)))]
  exact Nat.mul_lt_mul_of_pos_right (Nat.lt_succ_self _) (Nat.two_pow_pos _)

/-- Codes are in the order of what they stand for. -/
theorem units_strictMono (f : Format) : StrictMono f.units :=
  strictMono_nat_of_lt_succ f.units_lt_units_succ

/-- A magnitude of few digits is rounded to itself. -/
theorem units_roundNat_eq {num den digits exponent : Nat} (hden : 0 < den)
    (hdigits : digits ≤ 2 ^ f.fractionBits) (hexponent : exponent + 3 < 2 ^ f.exponentBits)
    (heq : num = den * (digits * 2 ^ exponent)) :
    f.units (f.roundNat num den) = digits * 2 ^ exponent := by
  obtain ⟨hfinite, hle⟩ := units_roundNat_le hden hdigits hexponent (Nat.le_of_eq heq)
  exact Nat.le_antisymm hle (le_units_roundNat hden hdigits (Nat.le_of_eq heq.symm) hfinite)

end Format

namespace Binary

variable {f : Format} {x y : Binary f} {digits exponent : Nat}

/-- A finite number of exactly so many units. -/
structure Exactly (units : Nat) (x : Binary f) : Prop where
  isFinite : x.isFinite = true
  units_eq : x.units = units

/-- Such a number is within bounds that are no smaller. -/
theorem Exactly.within {units bound : Nat} (hx : Exactly units x) (hle : units ≤ bound) :
    Within bound x :=
  ⟨hx.isFinite, Nat.le_trans (Nat.le_of_eq hx.units_eq) hle⟩

/-- A quotient of few digits is rounded to itself. -/
theorem exactly_round (hshort : Short f digits exponent) (negative : Bool) {num den : Nat}
    (hden : 0 < den) (heq : num = den * (digits * 2 ^ exponent)) :
    Exactly (digits * 2 ^ exponent) (⟨negative, f.round num den⟩ : Binary f) where
  isFinite := (within_round hshort negative hden (Nat.le_of_eq heq)).isFinite
  units_eq := Format.units_roundNat_eq hden hshort.digits_le hshort.exponent_lt heq

/-- A small integer is read exactly. -/
theorem exactly_ofInt {z : Int} (hz : z.natAbs ≤ 2 ^ f.fractionBits) :
    Exactly (z.natAbs * f.unity) (ofInt z : Binary f) :=
  exactly_round (short_unity hz) _ Nat.one_pos (Nat.one_mul _).symm

/-- A quotient is exact if it has few digits. -/
theorem Exactly.div {a b : Nat} (hx : Exactly a x) (hy : Exactly b y) (hpos : 0 < b)
    (hshort : Short f digits exponent) (heq : a * f.unity = b * (digits * 2 ^ exponent)) :
    Exactly (digits * 2 ^ exponent) (x / y) := by
  rw [div_eq_round hx.isFinite hy.isFinite (hy.units_eq ▸ hpos), hx.units_eq, hy.units_eq]
  exact exactly_round hshort _ hpos heq

/-- The sign of a quotient. -/
theorem negative_div (hx : x.isFinite = true) (hy : y.isFinite = true) (hpos : 0 < y.units) :
    (x / y).negative = (x.negative != y.negative) := by
  rw [div_eq_round hx hy hpos]

/-- The sign of a product. -/
theorem negative_mul (hx : x.isFinite = true) (hy : y.isFinite = true) :
    (x * y).negative = (x.negative != y.negative) := by
  rw [mul_eq_round hx hy]

/-- A product is not rounded below a bound of few digits. -/
theorem le_units_mul {a b : Nat} (hx : Exactly a x) (hy : Exactly b y)
    (hfinite : (x * y).isFinite = true) (hdigits : digits ≤ 2 ^ f.fractionBits)
    (hle : f.unity * (digits * 2 ^ exponent) ≤ a * b) :
    digits * 2 ^ exponent ≤ (x * y).units := by
  rw [mul_eq_round hx.isFinite hy.isFinite, hx.units_eq, hy.units_eq] at hfinite ⊢
  exact Format.le_units_roundNat f.unity_pos hdigits hle (of_decide_eq_true hfinite)

/-- The number one is one. -/
theorem exactly_one : Exactly f.unity (1 : Binary f) := by
  have hone := exactly_ofInt (f := f) (z := 1) Nat.one_le_two_pow
  rwa [Int.natAbs_one, Nat.one_mul] at hone

/-- A number of at most one is left alone by clamping to one. -/
theorem clamp_one (hx : Within f.unity x) : x.clamp (-1) 1 = x := by
  have hcode : x.code.val ≤ (1 : Binary f).code.val :=
    f.units_strictMono.le_iff_le.mp
      (Nat.le_trans hx.units_le (Nat.le_of_eq exactly_one.units_eq.symm))
  have hrank : -(1 : Binary f).code.val ≤ x.rank ∧ x.rank ≤ (1 : Binary f).code.val := by
    unfold rank
    split <;> omega
  have hone : (1 : Binary f).rank = (1 : Binary f).code.val := rfl
  have hminus : (-1 : Binary f).rank = -(1 : Binary f).code.val := rfl
  have hlow : x.less (-1) = false := by
    rw [less, hminus, decide_eq_false (by omega), Bool.and_false]
  have hhigh : (1 : Binary f).less x = false := by
    rw [less, hone, decide_eq_false (by omega), Bool.and_false]
  rw [clamp, hlow, hhigh, if_neg Bool.false_ne_true, if_neg Bool.false_ne_true]

/-- The integer nearest to a number has its sign. -/
theorem roundHalfAway_eq (x : Binary f) : x.roundHalfAway =
    if x.negative then -(x.roundHalfAway.natAbs : Int) else x.roundHalfAway.natAbs := by
  unfold roundHalfAway
  dsimp only
  split <;> simp only [Int.natAbs_neg, Int.natAbs_natCast]

/-- Its magnitude is that of the number, rounded. -/
theorem natAbs_roundHalfAway (x : Binary f) :
    x.roundHalfAway.natAbs = (2 * x.units + f.unity) / (2 * f.unity) := by
  unfold roundHalfAway
  dsimp only
  split <;> simp only [Int.natAbs_neg, Int.natAbs_natCast]

/-- It does not exceed a whole bound. -/
theorem natAbs_roundHalfAway_le {n : Nat} (hle : x.units ≤ n * f.unity) :
    x.roundHalfAway.natAbs ≤ n := by
  have hpos := f.unity_pos
  rw [natAbs_roundHalfAway, ← Nat.lt_succ_iff, Nat.div_lt_iff_lt_mul (by omega),
    Nat.mul_left_comm, Nat.succ_mul n]
  omega

/-- It reaches every whole number from half a step below. -/
theorem le_natAbs_roundHalfAway {n : Nat} (hle : 2 * (n * f.unity) ≤ 2 * x.units + f.unity) :
    n ≤ x.roundHalfAway.natAbs := by
  have hpos := f.unity_pos
  rw [natAbs_roundHalfAway, Nat.le_div_iff_mul_le (by omega), Nat.mul_left_comm]
  exact hle

end Binary

end VoiceProcessing
