/-!
# Binary floating-point formats

A number of a format is a sign and a *code*: the exponent field followed by the fraction field, read
as one natural number. Codes grow with the magnitude they stand for. Every finite number is a whole
multiple of the smallest positive one, the *unit* of the format, so the exact result of an
operation is a quotient of natural numbers counted in units, and `Format.round` turns such a
quotient into the nearest code, a tie going to the even one.

Signs, infinities and values that are not numbers are the business of `VoiceProcessing.Binary`.
-/

namespace VoiceProcessing

/-- The two interchange formats that carry samples, gains and statistics. -/
inductive Format where
  /-- 32 bits, of which 23 hold the fraction. -/
  | single
  /-- 64 bits, of which 52 hold the fraction. -/
  | double
  deriving DecidableEq

namespace Format

/-- The width of the exponent field. -/
def exponentBits : Format → Nat
  | single => 8
  | double => 11

/-- The width of the fraction field. -/
def fractionBits : Format → Nat
  | single => 23
  | double => 52

/-- The number of codes: the bit patterns without the sign bit. -/
def codes (f : Format) : Nat :=
  Nat.pow 2 (f.exponentBits + f.fractionBits)

/-- The code of infinity; every larger code stands for a value that is not a number. -/
def infinityCode (f : Format) : Nat :=
  (Nat.pow 2 f.exponentBits - 1) * Nat.pow 2 f.fractionBits

/-- The number one is `2 ^ f.scale` units. -/
def scale (f : Format) : Nat :=
  Nat.pow 2 (f.exponentBits - 1) + f.fractionBits - 2

/-- The value of one, counted in units. -/
def unity (f : Format) : Nat :=
  Nat.pow 2 f.scale

/-- The value of a finite code, counted in units: a code without an exponent is its own value, and
otherwise the fraction has a leading one and each further exponent doubles it. -/
def units (f : Format) (code : Nat) : Nat :=
  let exponent := code / Nat.pow 2 f.fractionBits
  let fraction := code % Nat.pow 2 f.fractionBits
  if exponent = 0 then fraction
  else (Nat.pow 2 f.fractionBits + fraction) * Nat.pow 2 (exponent - 1)

/-- The natural number nearest to `num / den`; of two equally near ones, the even one. -/
def nearestEven (num den : Nat) : Nat :=
  let quotient := num / den
  let rest := num % den
  if 2 * rest < den ∨ (2 * rest = den ∧ quotient % 2 = 0) then quotient else quotient + 1

/-- How many times the unit must be doubled for `num / den` to fit into a significand. -/
def doublings (f : Format) (num den : Nat) : Nat :=
  (num / den).log2 - f.fractionBits

/-- The code nearest to `num / den` units, ties to even; a magnitude that is too large gives
infinity. Adding the significand to the shifted exponent lets a significand that rounds up to the
next power of two carry into the exponent. -/
def roundNat (f : Format) (num den : Nat) : Nat :=
  let k := f.doublings num den
  min f.infinityCode (k * Nat.pow 2 f.fractionBits + nearestEven num (den * Nat.pow 2 k))

theorem infinityCode_lt_codes (f : Format) : f.infinityCode < f.codes := by
  cases f <;> decide

theorem roundNat_lt_codes (f : Format) (num den : Nat) : f.roundNat num den < f.codes :=
  Nat.lt_of_le_of_lt (Nat.min_le_left _ _) f.infinityCode_lt_codes

/-- `Format.roundNat` as a code of the format. -/
def round (f : Format) (num den : Nat) : Fin f.codes :=
  ⟨f.roundNat num den, f.roundNat_lt_codes num den⟩

end Format

end VoiceProcessing
