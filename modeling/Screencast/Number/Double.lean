import Screencast.Number.Rounding

/-! # Double precision

Rates are whole numbers of bits a second, and the factors on them are single-precision numbers. The
product is the one of double-precision arithmetic: the rate is rounded to 53 binary digits, the
factor is taken as it is, and their product is rounded to 53 digits again. All of it happens on
natural numbers, in units of `2⁻¹⁴⁹`.

Spans of time are whole numbers of nanoseconds, and double-precision numbers of seconds where they
are reckoned with. The way back is exact up to the one rounding to a whole nanosecond.
-/

namespace Screencast

/-- A whole number as a double-precision number holds it. -/
def toDouble (n : Nat) : Nat := roundSignificant doubleDigits n

/-- The product of a rate and a factor in units of `2⁻¹⁴⁹`. -/
def scaledUnits (rate : Nat) (factor : Single) : Nat := toDouble (toDouble rate * factor.units)

/-- The whole part of the product; a product with a NaN or a negative factor counts as zero. -/
def scaleRate (rate : Nat) (factor : Single) : Nat :=
  if factor.isNaN || factor.isNegative then 0 else scaledUnits rate factor >>> 149

/-- Whether `rate` exceeds the product of `base` and `factor`. -/
def exceedsScaled (rate base : Nat) (factor : Single) : Bool :=
  !factor.isNaN && decide (scaledUnits base factor < toDouble rate <<< 149)

/-- A whole number below `2⁶⁴` as a double-precision number. -/
def doubleOfNat (n : Nat) : Float := (UInt64.ofNat n).toFloat

/-- A span in seconds. -/
def secondsOfNanos (nanos : Nat) : Float :=
  doubleOfNat (nanos / 1000000000) + doubleOfNat (nanos % 1000000000) / 1000000000.0

/-- The nearest whole number of nanoseconds to a span in seconds, ties going to the even one. -/
def nanosOfSeconds (seconds : Float) : Nat :=
  let bits := seconds.toBits.toNat
  let exponent := bits >>> 52 % 2048
  let fraction := bits % 1 <<< 52
  let significand := if exponent = 0 then fraction else 1 <<< 52 + fraction
  roundDiv ((significand * 1000000000) <<< (exponent - 1)) (1 <<< 1074)

/-- The greater of a number and zero; a NaN counts as zero. -/
def positivePart (x : Float) : Float := if x > 0.0 then x else 0.0

end Screencast
