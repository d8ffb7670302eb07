import VoiceProcessing.Binary.Arithmetic

/-!
# Kinds of values

Every value is finite, infinite, or not a number. The exact result of an operation on finite numbers
is rounded once. An operation with an operand that is not finite is not rounded, and its result is
told by the kinds and the signs of the operands alone.
-/

namespace VoiceProcessing

namespace Binary

variable {f : Format} {x y : Binary f}

/-- Finite numbers are numbers. -/
theorem isNaN_of_isFinite (hfinite : x.isFinite = true) : x.isNaN = false := by
  simp only [isFinite, isNaN, decide_eq_true_eq, decide_eq_false_iff_not] at hfinite ⊢
  omega

/-- Finite numbers are not infinite. -/
theorem isInfinite_of_isFinite (hfinite : x.isFinite = true) : x.isInfinite = false := by
  simp only [isFinite, isInfinite, decide_eq_true_eq, beq_eq_false_iff_ne] at hfinite ⊢
  omega

/-- A number of some magnitude is not zero. -/
theorem isZero_of_units_pos (hpos : 0 < x.units) : x.isZero = false := by
  rw [isZero, beq_eq_false_iff_ne]
  intro hzero
  rw [units, hzero] at hpos
  simp [Format.units] at hpos

/-- Every value is finite, infinite, or not a number. -/
theorem isFinite_or (x : Binary f) :
    x.isFinite = true ∨ x.isInfinite = true ∨ x.isNaN = true := by
  simp only [isFinite, isInfinite, isNaN, decide_eq_true_eq, beq_iff_eq]
  omega

/-- Infinities are numbers. -/
theorem isNaN_of_isInfinite (hinfinite : x.isInfinite = true) : x.isNaN = false := by
  simp only [isInfinite, isNaN, beq_iff_eq, decide_eq_false_iff_not] at hinfinite ⊢
  omega

@[simp] theorem isNaN_nan : (nan : Binary f).isNaN = true := by
  cases f <;> decide

@[simp] theorem isNaN_infinity (negative : Bool) :
    (infinity negative : Binary f).isNaN = false := by
  cases f <;> cases negative <;> decide

@[simp] theorem isInfinite_infinity (negative : Bool) :
    (infinity negative : Binary f).isInfinite = true := by
  cases f <;> cases negative <;> decide

/-- There is one infinity of each sign. -/
theorem eq_infinity (hinfinite : x.isInfinite = true) : x = infinity x.negative := by
  obtain ⟨negative, code⟩ := x
  have hcode : code.val = f.infinityCode := beq_iff_eq.mp hinfinite
  exact congrArg (Binary.mk negative) (Fin.ext hcode)

/-- Nothing can be added to what is not a number. -/
theorem nan_add (y : Binary f) : nan + y = nan := by
  change Binary.add nan y = nan
  simp [Binary.add]

/-- Nor can it be added to anything. -/
theorem add_nan (x : Binary f) : x + nan = nan := by
  change Binary.add x nan = nan
  simp [Binary.add]

/-- What is infinite stays so when a finite number is added. -/
theorem infinity_add (negative : Bool) (hy : y.isFinite = true) :
    infinity negative + y = infinity negative := by
  change Binary.add (infinity negative) y = _
  simp [Binary.add, isNaN_of_isFinite hy, isInfinite_of_isFinite hy]

/-- So it does when it is added to a finite number. -/
theorem add_infinity (negative : Bool) (hx : x.isFinite = true) :
    x + infinity negative = infinity negative := by
  change Binary.add x (infinity negative) = _
  simp [Binary.add, isNaN_of_isFinite hx, isInfinite_of_isFinite hx]

/-- Infinities of one sign add up. -/
theorem infinity_add_infinity (negative : Bool) :
    infinity negative + infinity negative = (infinity negative : Binary f) := by
  change Binary.add (infinity negative) (infinity negative) = _
  simp [Binary.add]

/-- The sum of finite numbers is rounded once, unless it is zero. -/
theorem add_eq_round (hx : x.isFinite = true) (hy : y.isFinite = true) :
    x + y =
      let sum := x.signedUnits + y.signedUnits
      if sum = 0 then zero (x.negative && y.negative)
      else ⟨decide (sum < 0), f.round sum.natAbs 1⟩ := by
  change Binary.add x y = _
  simp only [Binary.add, isNaN_of_isFinite hx, isNaN_of_isFinite hy, isInfinite_of_isFinite hx,
    isInfinite_of_isFinite hy, Bool.or_self, Bool.false_eq_true, if_false]

/-- The product of finite numbers is rounded once. -/
theorem mul_eq_round (hx : x.isFinite = true) (hy : y.isFinite = true) :
    x * y = ⟨x.negative != y.negative, f.round (x.units * y.units) f.unity⟩ := by
  change Binary.mul x y = _
  simp only [Binary.mul, isNaN_of_isFinite hx, isNaN_of_isFinite hy, isInfinite_of_isFinite hx,
    isInfinite_of_isFinite hy, Bool.or_self, Bool.false_eq_true, if_false]

/-- The quotient of a finite number by one of some magnitude is rounded once. -/
theorem div_eq_round (hx : x.isFinite = true) (hy : y.isFinite = true) (hpos : 0 < y.units) :
    x / y = ⟨x.negative != y.negative, f.round (x.units * f.unity) y.units⟩ := by
  change Binary.div x y = _
  simp only [Binary.div, isNaN_of_isFinite hx, isNaN_of_isFinite hy, isInfinite_of_isFinite hx,
    isInfinite_of_isFinite hy, isZero_of_units_pos hpos, Bool.or_self, Bool.false_eq_true, if_false]

/-- A sum of numbers that are not negative is not negative. -/
theorem negative_add (hx : x.isFinite = true) (hy : y.isFinite = true) (hsign : x.negative = false)
    (hsign' : y.negative = false) : (x + y).negative = false := by
  have hsum : ¬x.signedUnits + y.signedUnits < 0 := by
    simp only [signedUnits, hsign, hsign', Bool.false_eq_true, if_false]
    omega
  rw [add_eq_round hx hy]
  dsimp only
  split
  · simp [zero, hsign]
  · exact decide_eq_false hsum

/-- No product has what is not a number for a factor. -/
theorem nan_mul (y : Binary f) : nan * y = nan := by
  change Binary.mul nan y = nan
  simp [Binary.mul]

/-- No quotient has what is not a number for a dividend. -/
theorem nan_div (y : Binary f) : nan / y = nan := by
  change Binary.div nan y = nan
  simp [Binary.div]

/-- An infinity times a finite number of some magnitude. -/
theorem infinity_mul (negative : Bool) (hy : y.isFinite = true) (hpos : 0 < y.units) :
    infinity negative * y = infinity (negative != y.negative) := by
  change Binary.mul (infinity negative) y = _
  have hzero : (infinity negative : Binary f).isZero = false := by
    cases f <;> cases negative <;> decide
  simp [Binary.mul, isNaN_of_isFinite hy, isZero_of_units_pos hpos, hzero]
  rfl

/-- An infinity divided by a finite number. -/
theorem infinity_div (negative : Bool) (hy : y.isFinite = true) :
    infinity negative / y = infinity (negative != y.negative) := by
  change Binary.div (infinity negative) y = _
  simp [Binary.div, isNaN_of_isFinite hy, isInfinite_of_isFinite hy]
  rfl

/-- A finite number divided by an infinity. -/
theorem div_infinity (negative : Bool) (hx : x.isFinite = true) :
    x / infinity negative = zero (x.negative != negative) := by
  change Binary.div x (infinity negative) = _
  simp [Binary.div, isNaN_of_isFinite hx, isInfinite_of_isFinite hx]
  rfl

end Binary

end VoiceProcessing
