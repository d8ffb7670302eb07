import VoiceProcessing.Binary.Arithmetic

/-!
# The decimal logarithm

Squaring a number doubles its logarithm, so the binary digits of a logarithm appear one at a time:
square a number between one and two, and the next digit is one exactly when the square reaches two,
in which case it is halved. The digits are collected in fixed point, scaled by the decimal
logarithm of two and rounded once.

The special cases are those of the floating-point standard: the logarithm of either zero is
negative infinity, that of positive infinity is itself, and a negative number has none.
-/

namespace VoiceProcessing

namespace Logarithm

/-- Binary digits kept of the number whose logarithm is taken. -/
def precision : Nat := 128

/-- Binary digits of the logarithm after the point. -/
def places : Nat := 120

/-- The decimal logarithm of two, in parts of `2 ^ precision`. -/
def ofTwo : Nat := 102435199438739363750012109250103232700

/-- The first `n` binary digits after the point of the binary logarithm of `y / 2 ^ precision`,
for a quotient of at least one and less than two. -/
def digits : Nat → Nat → Nat
  | 0, _ => 0
  | n + 1, y =>
    let square := y * y / Nat.pow 2 precision
    if Nat.pow 2 (precision + 1) ≤ square then Nat.pow 2 n + digits n (square / 2)
    else digits n square

/-- The binary logarithm of `units / 2 ^ scale`, in parts of `2 ^ places`. -/
def binary (scale units : Nat) : Int :=
  let exponent := units.log2
  ((exponent : Int) - scale) * Nat.pow 2 places
    + digits places (units * Nat.pow 2 precision / Nat.pow 2 exponent)

end Logarithm

namespace Binary

variable {f : Format}

/-- The decimal logarithm. -/
def log10 (x : Binary f) : Binary f :=
  if x.isNaN then nan
  else if x.isZero then infinity true
  else if x.negative then nan
  else if x.isInfinite then x
  else
    let log2 := Logarithm.binary f.scale x.units
    ⟨decide (log2 < 0),
      f.round (log2.natAbs * Logarithm.ofTwo * f.unity)
        (Nat.pow 2 (Logarithm.places + Logarithm.precision))⟩

end Binary

end VoiceProcessing
