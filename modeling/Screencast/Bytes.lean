/-! # Bytes, and numbers written in them

Numbers are little endian: the lowest byte comes first.
-/

namespace Screencast

/-- Bytes in order. -/
abbrev Bytes := List UInt8

namespace LittleEndian

/-- The lowest `width` bytes of a number. -/
def write : Nat → Nat → Bytes
  | 0, _ => []
  | width + 1, n => UInt8.ofNat n :: write width (n / 256)

/-- The number that bytes write. -/
def read : Bytes → Nat
  | [] => 0
  | b :: rest => b.toNat + 256 * read rest

end LittleEndian

/-- Splits `n` bytes off the front, if there are that many. -/
def splitBytes? (n : Nat) (input : Bytes) : Option (Bytes × Bytes) :=
  if n ≤ input.length then some (input.take n, input.drop n) else none

end Screencast
