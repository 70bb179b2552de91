import Screencast.Number.Decimal

/-! # The shortest decimal text

A double-precision number is written with the fewest digits that read back as the same number; of
two such decimals the nearer one counts. A whole number keeps a zero after its point, and there is
never an exponent.
-/

namespace Screencast

namespace Decimal

/-- The number of digits before the point of `units · 2⁻¹⁰⁷⁴`, which is not zero. -/
def magnitudeOfUnits (units : Nat) : Int :=
  if 1 <<< 1074 ≤ units then (Nat.toDigits 10 (units >>> 1074)).length
  else ((List.range 400).find? fun k => decide (1 <<< 1074 ≤ units * tens k)).elim 0 (1 - ·)

/-- A decimal of so many digits that reads back as `units · 2⁻¹⁰⁷⁴`, if there is one. -/
def withDigits? (units : Nat) (magnitude : Int) (digits : Nat) : Option Decimal :=
  let exponent := magnitude - digits
  let num := units * tens (-exponent).toNat
  let den := tens exponent.toNat <<< 1074
  ([roundDiv num den, num / den, num / den + 1].map (Decimal.mk false · exponent)).find?
    (·.doubleUnits? == some units)

/-- The shortest decimal that reads back as `units · 2⁻¹⁰⁷⁴`; seventeen digits always suffice. -/
def shortest (units : Nat) : Decimal :=
  ((List.range 17).findSome? fun n =>
    withDigits? units (magnitudeOfUnits units) (n + 1)).getD ⟨false, 0, 0⟩

/-- The text with a point and at least one digit on each side of it. -/
def text (x : Decimal) : String :=
  let places := (-x.exponent).toNat
  let digits := Nat.toDigits 10 (x.mantissa * tens x.exponent.toNat)
  let digits := List.replicate (places + 1 - digits.length) '0' ++ digits
  let whole := digits.take (digits.length - places)
  let fraction := ((digits.drop (digits.length - places)).reverse.dropWhile (· == '0')).reverse
  String.ofList (if x.negative then ['-'] else []) ++ String.ofList whole ++ "." ++
    if fraction.isEmpty then "0" else String.ofList fraction

end Decimal

/-- The text of a single-precision number, read as a double-precision one. -/
def Single.text (x : Single) : String :=
  if x.isNaN then (if x.isNegative then "-nan" else "nan")
  else if x.isInfinite then (if x.isNegative then "-inf" else "inf")
  else if x.units = 0 then (if x.isNegative then "-0.0" else "0.0")
  else { Decimal.shortest (x.units <<< (1074 - 149)) with negative := x.isNegative }.text

end Screencast
