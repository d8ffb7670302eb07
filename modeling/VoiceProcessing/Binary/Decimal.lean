import VoiceProcessing.Binary.Arithmetic

/-!
# Decimal text of numbers

A number is written with the fewest digits that read back as the same number: of the decimal grids,
from the coarsest to the finest, the first that has such a point next to the number wins, and of two
such points the nearer, or the greater if both are equally near. Numbers of ordinary size are
written positionally, with at least one digit after the point, and all others with an exponent.
-/

namespace VoiceProcessing

/-- The magnitude `digits * 10 ^ exponent`. -/
structure Decimal where
  digits : Nat
  exponent : Int
  deriving DecidableEq

namespace Decimal

/-- The code of format `f` nearest to a decimal magnitude. -/
def code (f : Format) (d : Decimal) : Nat :=
  if 0 ≤ d.exponent then f.roundNat (d.digits * Nat.pow 10 d.exponent.toNat * f.unity) 1
  else f.roundNat (d.digits * f.unity) (Nat.pow 10 (-d.exponent).toNat)

/-- The two multiples of `10 ^ exponent` around a magnitude in units, the nearer one first and
the greater one first in a tie. -/
def neighbours (f : Format) (units : Nat) (exponent : Int) : List Decimal :=
  let num := if 0 ≤ exponent then units else units * Nat.pow 10 (-exponent).toNat
  let den := if 0 ≤ exponent then f.unity * Nat.pow 10 exponent.toNat else f.unity
  let below : Decimal := ⟨num / den, exponent⟩
  let above : Decimal := ⟨num / den + 1, exponent⟩
  if 2 * (num % den) < den then [below, above] else [above, below]

/-- The exponents of the grids that are tried, from coarse to fine. -/
def gridExponents : List Int :=
  (List.range 660).map fun (i : Nat) => 309 - (i : Int)

/-- The decimal magnitude with the fewest digits that reads back as the finite code `code`. -/
def shortest (f : Format) (code : Nat) : Decimal :=
  let fits := fun (d : Decimal) => d.code f == code
  (gridExponents.findSome? fun e => (neighbours f (f.units code) e).find? fits).getD ⟨0, 0⟩

/-- Where the decimal point stands, counted from the left end of the digits. -/
def pointPosition (d : Decimal) : Int :=
  (toString d.digits).length + d.exponent

/-- The digits with the point in its place and at least one digit on either side of it. -/
def positional (d : Decimal) : String :=
  let digits := (toString d.digits).toList
  let zeros := fun (n : Nat) => List.replicate n '0'
  if 0 ≤ d.exponent then
    String.ofList (digits ++ zeros d.exponent.toNat) ++ ".0"
  else
    let places := (-d.exponent).toNat
    let padded := zeros (places + 1 - digits.length) ++ digits
    let whole := padded.length - places
    String.ofList (padded.take whole) ++ "." ++ String.ofList (padded.drop whole)

/-- One digit before the point, the others after it, and the exponent of ten. -/
def scientific (d : Decimal) : String :=
  let digits := (toString d.digits).toList
  let fraction := if digits.length ≤ 1 then "" else "." ++ String.ofList (digits.drop 1)
  String.ofList (digits.take 1) ++ fraction ++ "e" ++ toString (d.pointPosition - 1)

/-- Numbers from one ten-thousandth up to below ten to the sixteenth, and zero, are written
positionally. -/
def text (d : Decimal) : String :=
  if d.digits = 0 then "0.0"
  else if -3 ≤ d.pointPosition ∧ d.pointPosition ≤ 16 then d.positional
  else d.scientific

end Decimal

/-- The text of a number. -/
def Binary.text {f : Format} (x : Binary f) : String :=
  if x.isNaN then "NaN"
  else
    (if x.negative then "-" else "")
      ++ if x.isInfinite then "inf" else (Decimal.shortest f x.code).text

end VoiceProcessing
