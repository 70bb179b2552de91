import Screencast.Number.Single

/-! # Rounding to nearest, ties to even

Exact rounding of natural numbers, as a floating-point unit does it, and of a magnitude to a
fixed number of decimal places.
-/

namespace Screencast

/-- The quotient `n / d` rounded to the nearest natural number, of two equally near to the even. -/
def roundDiv (n d : Nat) : Nat :=
  let q := n / d
  let r := n % d
  if d < 2 * r ∨ (2 * r = d ∧ q % 2 = 1) then q + 1 else q

/-- `n` rounded to `digits` significant binary digits, which is how a floating-point number of that
precision holds it. Numbers short enough are held exactly. -/
def roundSignificant (digits n : Nat) : Nat :=
  let excess := Nat.log2 n + 1 - digits
  roundDiv n (1 <<< excess) <<< excess

/-- The quotient `n / d` rounded to `digits` significant binary digits, or to a whole number. -/
def roundQuotient (digits n d : Nat) : Nat :=
  let excess := Nat.log2 (n / d) + 1 - digits
  roundDiv n (d <<< excess) <<< excess

/-- The precision of a double-precision number. -/
def doubleDigits : Nat := 53

/-- The precision of a single-precision number. -/
def singleDigits : Nat := 24

/-- The single-precision number nearest to a whole number. -/
def Single.ofInt (n : Int) : Single :=
  .ofUnits (n < 0) (roundSignificant singleDigits n.natAbs <<< 149)

namespace Single

/-- The decimal text of a single-precision number with one place after the point. The exact value is
rounded, a tie going to the even digit, and the sign of a negative number is kept even where nothing
else of it is left. -/
def toOnePlace (x : Single) : String :=
  if x.isNaN then "NaN" else
  let sign := if x.isNegative then "-" else ""
  if x.isInfinite then sign ++ "inf" else
  let tenths := roundDiv (x.units * 10) (1 <<< 149)
  sign ++ toString (tenths / 10) ++ "." ++ toString (tenths % 10)

end Single

end Screencast
