import Screencast.Number.Rounding

/-! # Decimal numbers

A number written in decimal digits, the double-precision number nearest to it, and the
single-precision number nearest to that. All rounding is exact, so a number is read the same way
however it is written.
-/

namespace Screencast

/-- The number `mantissa · 10 ^ exponent` with a sign. -/
structure Decimal where
  negative : Bool
  mantissa : Nat
  exponent : Int
deriving DecidableEq, Repr

namespace Decimal

/-- Ten to the power of `n`. -/
def tens (n : Nat) : Nat := Nat.pow 10 n

/-- The number of digits before the point; negative when zeros follow the point. -/
def magnitude (x : Decimal) : Int := x.exponent + (Nat.toDigits 10 x.mantissa).length

/-- A magnitude beyond all double-precision numbers, upwards and, negated, downwards. -/
def magnitudeLimit : Int := 400

/-- The magnitude of the nearest double-precision number in units of `2⁻¹⁰⁷⁴`, of which each finite
one is a multiple; absent when the number is too large for a finite one. -/
def doubleUnits? (x : Decimal) : Option Nat :=
  if x.mantissa = 0 ∨ x.magnitude < -magnitudeLimit then some 0
  else if magnitudeLimit < x.magnitude then none
  else
    let units := roundQuotient doubleDigits ((x.mantissa * tens x.exponent.toNat) <<< 1074)
      (tens (-x.exponent).toNat)
    if units < 1 <<< (1074 + 1024) then some units else none

/-- The single-precision number that is nearest to the nearest double-precision number. -/
def toSingle (x : Decimal) : Single :=
  match x.doubleUnits? with
  | some units => .ofUnits x.negative (roundQuotient singleDigits units (1 <<< (1074 - 149)))
  | none => .infinity x.negative

end Decimal

end Screencast
