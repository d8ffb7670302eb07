import VoiceProcessing.Proofs.Exactness

/-!
# Rounding keeps order

Neither of the two roundings, that of an exact result to a number and that of a number to an
integer, brings a pair of values out of order. Results may become equal, so what is kept is the
order that allows for equality.

Signs are kept apart from magnitudes everywhere, and rounding works on magnitudes. A function of
magnitudes that keeps order and leaves nothing at nothing also keeps the order of what has signs.
This carries the order of codes over to the numbers, and that of the numbers to what is made of
them.
-/

namespace VoiceProcessing

namespace Format

variable {f : Format}

/-- Rounding to a natural number keeps order. -/
theorem nearestEven_mono {num num' : Nat} (hle : num ≤ num') (den : Nat) :
    nearestEven num den ≤ nearestEven num' den := by
  have hquotient : num / den ≤ num' / den := Nat.div_le_div_right hle
  unfold nearestEven
  dsimp only
  rcases Nat.lt_or_eq_of_le hquotient with hlt | heq
  · split <;> split <;> omega
  · -- The quotients are equal, so whatever rounds up the smaller rest rounds up the greater one.
    have hrest : num % den ≤ num' % den := by
      have hsum := Nat.div_add_mod num den
      have hsum' := Nat.div_add_mod num' den
      rw [heq] at hsum
      omega
    rw [heq]
    split <;> split <;> omega

/-- A greater magnitude needs no fewer doublings to fit. -/
theorem doublings_mono (f : Format) {num num' : Nat} (hle : num ≤ num') (den : Nat) :
    f.doublings num den ≤ f.doublings num' den := by
  have hquotient : num / den ≤ num' / den := Nat.div_le_div_right hle
  apply Nat.sub_le_sub_right
  rcases Nat.eq_zero_or_pos (num / den) with hzero | hpos
  · rw [hzero, Nat.log2_zero]
    exact Nat.zero_le _
  · rw [Nat.le_log2 (Nat.ne_of_gt (Nat.lt_of_lt_of_le hpos hquotient))]
    exact Nat.le_trans (Nat.log2_self_le (Nat.ne_of_gt hpos)) hquotient

/-- Rounding to a code keeps order. -/
theorem roundNat_mono (f : Format) {num num' den : Nat} (hden : 0 < den) (hle : num ≤ num') :
    f.roundNat num den ≤ f.roundNat num' den := by
  obtain ⟨hround, hmost, -⟩ := f.roundNat_eq num hden
  obtain ⟨hround', -, hleast'⟩ := f.roundNat_eq num' hden
  rw [hround, hround']
  refine Nat.le_min.mpr ⟨Nat.min_le_left _ _, Nat.le_trans (Nat.min_le_right _ _) ?_⟩
  rcases Nat.lt_or_eq_of_le (f.doublings_mono hle den) with hlt | heq
  · -- With more doublings the significand is normal, which outweighs one that has just carried.
    have hnormal := hleast'.resolve_left (Nat.ne_of_gt (Nat.zero_lt_of_lt hlt))
    calc
      _ ≤ f.doublings num den * 2 ^ f.fractionBits + 2 ^ (f.fractionBits + 1) :=
        Nat.add_le_add_left hmost _
      _ = (f.doublings num den + 1) * 2 ^ f.fractionBits + 2 ^ f.fractionBits := by
        rw [Nat.pow_succ, Nat.add_mul]
        omega
      _ ≤ _ := Nat.add_le_add (Nat.mul_le_mul_right _ hlt) hnormal
  · rw [heq]
    exact Nat.add_le_add_left (nearestEven_mono hle _) _

/-- Nothing is rounded to nothing. -/
theorem units_roundNat_zero (f : Format) {den : Nat} (hden : 0 < den) :
    f.units (f.roundNat 0 den) = 0 := by
  have hnone : 0 = den * (0 * 2 ^ 0) := by simp
  have hexponent : 0 + 3 < 2 ^ f.exponentBits := by cases f <;> decide
  rw [units_roundNat_eq hden (Nat.zero_le _) hexponent hnone, Nat.zero_mul]

end Format

namespace Binary

/-- A magnitude with a sign. -/
def signed (negative : Bool) (magnitude : Nat) : Int :=
  if negative then -(magnitude : Int) else magnitude

/-- The opposite sign. -/
theorem signed_not (negative : Bool) (magnitude : Nat) :
    signed (!negative) magnitude = -signed negative magnitude := by
  cases negative <;> simp [signed]

/-- Order is kept by what keeps that of magnitudes. -/
theorem signed_le_signed {g : Nat → Nat} (hg : Monotone g) (hzero : g 0 = 0) {s t : Bool}
    {m n : Nat} (hle : signed s m ≤ signed t n) : signed s (g m) ≤ signed t (g n) := by
  cases s <;> cases t <;> simp only [signed, if_true, if_false, Bool.false_eq_true] at hle ⊢
  case false.false => exact Int.ofNat_le.mpr (hg (Int.ofNat_le.mp hle))
  case false.true =>
    obtain ⟨rfl, rfl⟩ : m = 0 ∧ n = 0 := by omega
    omega
  case true.false => omega
  case true.true =>
    have hmagnitudes : g n ≤ g m := hg (by omega)
    omega

/-- What keeps magnitudes apart also keeps apart what has signs. -/
theorem signed_lt_signed {g : Nat → Nat} (hg : StrictMono g) (hzero : g 0 = 0) {s t : Bool}
    {m n : Nat} (hlt : signed s m < signed t n) : signed s (g m) < signed t (g n) := by
  have hpos (k : Nat) (hk : 0 < k) : 0 < g k := hzero ▸ hg hk
  cases s <;> cases t <;> simp only [signed, if_true, if_false, Bool.false_eq_true] at hlt ⊢
  case false.false => exact Int.ofNat_lt.mpr (hg (Int.ofNat_lt.mp hlt))
  case false.true => omega
  case true.false =>
    rcases Nat.eq_zero_or_pos m with rfl | hm
    · have hright := hpos n (by omega)
      omega
    · have hleft := hpos m hm
      omega
  case true.true =>
    have hmagnitudes : g n < g m := hg (by omega)
    omega

variable {f : Format} {x y z : Binary f}

/-- The order of the numbers is that of what they stand for. -/
theorem signedUnits_lt_iff : x.signedUnits < y.signedUnits ↔ x.rank < y.rank := by
  have hzero : f.units 0 = 0 := by simp [Format.units]
  constructor
  · contrapose!
    exact signed_le_signed f.units_strictMono.monotone hzero
  · exact signed_lt_signed f.units_strictMono hzero

/-- Multiplication by a number that is not negative keeps order. -/
theorem signedUnits_mul_le (hx : x.isFinite = true) (hy : y.isFinite = true)
    (hz : z.isFinite = true) (hsign : z.negative = false) (hle : x.signedUnits ≤ y.signedUnits) :
    (x * z).signedUnits ≤ (y * z).signedUnits := by
  let scale (units : Nat) : Nat := f.units (f.roundNat (units * z.units) f.unity)
  have hscale : Monotone scale := fun m n hmn => f.units_strictMono.monotone
    (f.roundNat_mono f.unity_pos (Nat.mul_le_mul_right _ hmn))
  have hzero : scale 0 = 0 := by
    simp only [scale, Nat.zero_mul]
    exact f.units_roundNat_zero f.unity_pos
  have hscaled := signed_le_signed hscale hzero hle
  rw [mul_eq_round hx hz, mul_eq_round hy hz, hsign, Bool.bne_false, Bool.bne_false]
  exact hscaled

/-- Rounding to an integer keeps order. -/
theorem roundHalfAway_le (hle : x.signedUnits ≤ y.signedUnits) :
    x.roundHalfAway ≤ y.roundHalfAway := by
  let nearest (units : Nat) : Nat := (2 * units + f.unity) / (2 * f.unity)
  have hnearest : Monotone nearest := fun m n hmn =>
    Nat.div_le_div_right (Nat.add_le_add_right (Nat.mul_le_mul_left 2 hmn) _)
  have hzero : nearest 0 = 0 := by
    have hpos := f.unity_pos
    exact Nat.div_eq_of_lt (by omega)
  exact signed_le_signed hnearest hzero hle

/-- The place of a number is as far from the middle as its code says. -/
theorem natAbs_rank (x : Binary f) : x.rank.natAbs = x.code := by
  unfold rank
  split <;> simp only [Int.natAbs_neg, Int.natAbs_natCast]

/-- The opposite number has the opposite place. -/
theorem rank_neg (x : Binary f) : (-x).rank = -x.rank :=
  signed_not x.negative x.code

/-- It is a number if `x` is. -/
theorem isNaN_neg (x : Binary f) : (-x).isNaN = x.isNaN :=
  rfl

/-- It is finite if `x` is. -/
theorem isFinite_neg (x : Binary f) : (-x).isFinite = x.isFinite :=
  rfl

/-- Its products are the opposite ones. -/
theorem neg_mul_eq (hx : x.isFinite = true) (hy : y.isFinite = true) : -x * y = -(x * y) := by
  have hsign : ((!x.negative) != y.negative) = !(x.negative != y.negative) := Bool.not_bne _ _
  rw [mul_eq_round hx hy, mul_eq_round ((isFinite_neg x).trans hx) hy]
  exact congrArg (Binary.mk · _) hsign

/-- It is rounded to the opposite integer. -/
theorem roundHalfAway_neg (x : Binary f) : (-x).roundHalfAway = -x.roundHalfAway :=
  signed_not x.negative _

end Binary

end VoiceProcessing
