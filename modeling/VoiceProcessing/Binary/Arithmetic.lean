import VoiceProcessing.Binary.Format

/-!
# Binary floating-point numbers

A number is a sign and a code of its format. Two numbers are equal as values of the type exactly
when their bit patterns are, so signed zeros and the payloads of values that are not numbers are
kept apart; `Binary.agrees` and `Binary.less` are the comparisons of the numbers themselves.

Each arithmetic operation rounds the exact result once. A result that is not a number is always the
quiet one with an empty payload.
-/

namespace VoiceProcessing

/-- A floating-point number of format `f`, as its bit pattern. -/
structure Binary (f : Format) where
  /-- The sign bit. -/
  negative : Bool
  /-- The exponent and fraction fields. -/
  code : Fin f.codes
  deriving DecidableEq

/-- Numbers of 32 bits: samples and gains. -/
abbrev Binary32 := Binary .single

/-- Numbers of 64 bits: powers and statistics. -/
abbrev Binary64 := Binary .double

namespace Binary

variable {f : Format}

/-- The number with the given bit pattern; bits above the format's width are ignored. -/
def ofBits (bits : Nat) : Binary f where
  negative := bits / f.codes % 2 == 1
  code := ⟨bits % f.codes, Nat.mod_lt _ (by cases f <;> decide)⟩

/-- The bit pattern, sign bit first. -/
def toBits (x : Binary f) : Nat :=
  x.code + if x.negative then f.codes else 0

/-- The zero of the given sign. -/
def zero (negative : Bool) : Binary f :=
  ⟨negative, 0, by cases f <;> decide⟩

/-- The infinity of the given sign. -/
def infinity (negative : Bool) : Binary f :=
  ⟨negative, f.infinityCode, f.infinityCode_lt_codes⟩

/-- The quiet value that is not a number. -/
def nan : Binary f :=
  ⟨false, f.infinityCode + Nat.pow 2 (f.fractionBits - 1), by cases f <;> decide⟩

instance : Inhabited (Binary f) := ⟨zero false⟩

/-- Whether `x` is not a number. -/
def isNaN (x : Binary f) : Bool :=
  f.infinityCode < x.code.val

/-- Whether `x` is an infinity. -/
def isInfinite (x : Binary f) : Bool :=
  x.code.val == f.infinityCode

/-- Whether `x` is neither infinite nor not a number. -/
def isFinite (x : Binary f) : Bool :=
  x.code.val < f.infinityCode

/-- Whether `x` is a zero of either sign. -/
def isZero (x : Binary f) : Bool :=
  x.code.val == 0

/-- The magnitude of a finite number, counted in units. -/
def units (x : Binary f) : Nat :=
  f.units x.code

/-- The value of a finite number, counted in units. -/
def signedUnits (x : Binary f) : Int :=
  if x.negative then -(x.units : Int) else x.units

/-- The position of `x` in the order of the numbers: both zeros are at `0`. -/
def rank (x : Binary f) : Int :=
  if x.negative then -(x.code.val : Int) else x.code.val

/-- Whether `x` is smaller than `y`; never so when either is not a number. -/
def less (x y : Binary f) : Bool :=
  !x.isNaN && !y.isNaN && decide (x.rank < y.rank)

/-- Whether `x` and `y` are the same number: zeros agree whatever their sign, and a value that is
not a number agrees with nothing. -/
def agrees (x y : Binary f) : Bool :=
  !x.isNaN && !y.isNaN && decide (x.rank = y.rank)

/-- The number with the opposite sign. -/
def neg (x : Binary f) : Binary f :=
  { x with negative := !x.negative }

instance : Neg (Binary f) := ⟨neg⟩

/-- `x` moved to the nearer of the two bounds when it lies outside them. -/
def clamp (x low high : Binary f) : Binary f :=
  if x.less low then low else if high.less x then high else x

/-- The number nearest to an integer. -/
def ofInt (z : Int) : Binary f :=
  ⟨decide (z < 0), f.round (z.natAbs * f.unity) 1⟩

instance (n : Nat) : OfNat (Binary f) n := ⟨ofInt n⟩

/-- The number nearest to the sum. -/
def add (x y : Binary f) : Binary f :=
  if x.isNaN || y.isNaN then nan
  else if x.isInfinite then
    if y.isInfinite && x.negative != y.negative then nan else x
  else if y.isInfinite then y
  else
    let sum := x.signedUnits + y.signedUnits
    if sum = 0 then zero (x.negative && y.negative)
    else ⟨decide (sum < 0), f.round sum.natAbs 1⟩

instance : Add (Binary f) := ⟨add⟩

/-- The number nearest to the product. -/
def mul (x y : Binary f) : Binary f :=
  let negative := x.negative != y.negative
  if x.isNaN || y.isNaN then nan
  else if x.isInfinite || y.isInfinite then
    if x.isZero || y.isZero then nan else infinity negative
  else ⟨negative, f.round (x.units * y.units) f.unity⟩

instance : Mul (Binary f) := ⟨mul⟩

/-- The number nearest to the quotient. -/
def div (x y : Binary f) : Binary f :=
  let negative := x.negative != y.negative
  if x.isNaN || y.isNaN then nan
  else if x.isInfinite then
    if y.isInfinite then nan else infinity negative
  else if y.isInfinite then zero negative
  else if y.isZero then
    if x.isZero then nan else infinity negative
  else ⟨negative, f.round (x.units * f.unity) y.units⟩

instance : Div (Binary f) := ⟨div⟩

/-- The number of format `g` nearest to `x`. -/
def convert (g : Format) (x : Binary f) : Binary g :=
  if x.isNaN then nan
  else if x.isInfinite then infinity x.negative
  else ⟨x.negative, g.round (x.units * g.unity) f.unity⟩

/-- The integer nearest to a finite number, a half going away from zero. -/
def roundHalfAway (x : Binary f) : Int :=
  let magnitude : Int := ((2 * x.units + f.unity) / (2 * f.unity) : Nat)
  if x.negative then -magnitude else magnitude

end Binary

end VoiceProcessing
