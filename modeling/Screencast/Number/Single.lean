/-! # Single-precision numbers

A single-precision number is kept as its 32 bits, so that a number which only passes through
(a loss rate on the wire) comes out as it went in, NaN payloads included. The finite numbers are
the multiples of `2⁻¹⁴⁹`; `units` reads a magnitude on that grid, which makes order and exact
products questions about natural numbers.
-/

namespace Screencast

/-- A single-precision floating-point number, given by its bits. -/
structure Single where
  bits : UInt32
deriving DecidableEq, Repr

namespace Single

instance : Inhabited Single := ⟨⟨0⟩⟩

/-- The eight exponent bits. -/
def exponent (x : Single) : Nat := x.bits.toNat >>> 23 % 256

/-- The 23 fraction bits. -/
def fraction (x : Single) : Nat := x.bits.toNat % 1 <<< 23

def isNegative (x : Single) : Bool := decide (1 <<< 31 ≤ x.bits.toNat)

def isNaN (x : Single) : Bool := x.exponent == 255 && x.fraction != 0

def isInfinite (x : Single) : Bool := x.exponent == 255 && x.fraction == 0

/-- The magnitude in units of `2⁻¹⁴⁹`. An infinity has `2²⁷⁷` units, more than any finite one. -/
def units (x : Single) : Nat :=
  if x.exponent = 0 then x.fraction else (1 <<< 23 + x.fraction) <<< (x.exponent - 1)

/-- The signed value in units of `2⁻¹⁴⁹`; both zeros have the value zero. -/
def value (x : Single) : Int := if x.isNegative then -(x.units : Int) else x.units

/-- The order of numbers; nothing is below or above a NaN. -/
def lt (x y : Single) : Bool := !x.isNaN && !y.isNaN && decide (x.value < y.value)

/-- The greater of two numbers, or the one that is a number when the other is a NaN. -/
def max (x y : Single) : Single :=
  if x.isNaN then y else if y.isNaN then x else if x.lt y then y else x

/-- The number in `[low, high]` closest to `x`; a NaN stays a NaN. -/
def clamp (x low high : Single) : Single :=
  if x.lt low then low else if high.lt x then high else x

def ofFloat32 (x : Float32) : Single := ⟨x.toBits⟩

def toFloat32 (x : Single) : Float32 := Float32.ofBits x.bits

/-- Widening to double precision is exact. -/
def toFloat (x : Single) : Float := x.toFloat32.toFloat

/-- The infinity of a sign. -/
def infinity (negative : Bool) : Single := ⟨if negative then 0xff800000 else 0x7f800000⟩

def nan : Single := ⟨0x7fc00000⟩

/-- The number with a sign and a magnitude in units of `2⁻¹⁴⁹`, which has at most 24 significant
binary digits. What is above all finite numbers becomes an infinity. -/
def ofUnits (negative : Bool) (units : Nat) : Single :=
  let sign := if negative then 1 <<< 31 else 0
  let steps := Nat.log2 units - 23
  if 1 <<< 277 ≤ units then infinity negative
  else if units < 1 <<< 23 then ⟨UInt32.ofNat (sign + units)⟩
  else ⟨UInt32.ofNat (sign + steps <<< 23 + units >>> steps)⟩

def zero : Single := ⟨0⟩

/-- The number `0.1`, rounded. -/
def tenth : Single := ⟨0x3dcccccd⟩

/-- The number `0.5`. -/
def half : Single := ⟨0x3f000000⟩

/-- The number `0.85`, rounded. -/
def seventeenTwentieths : Single := ⟨0x3f59999a⟩

/-- The number `1`. -/
def one : Single := ⟨0x3f800000⟩

/-- The number `1.1`, rounded. -/
def elevenTenths : Single := ⟨0x3f8ccccd⟩

end Single

end Screencast
