import Screencast.Bytes

/-! # Bytes and numbers in hexadecimal digits

Two lower-case digits a byte. Long byte strings are told apart by a 64-bit digest instead.
-/

namespace Screencast.Hex

/-- A number in hexadecimal digits, filled up with zeros to `width` digits. -/
def ofNat (width n : Nat) : String :=
  let digits := Nat.toDigits 16 n
  String.ofList (List.replicate (width - digits.length) '0' ++ digits)

def ofBytes (bytes : Bytes) : String := String.join (bytes.map fun b => ofNat 2 b.toNat)

/-- The value of a hexadecimal digit of either case. -/
def digit? (c : Char) : Option Nat :=
  if '0' ≤ c ∧ c ≤ '9' then some (c.toNat - '0'.toNat)
  else if 'a' ≤ c ∧ c ≤ 'f' then some (c.toNat - 'a'.toNat + 10)
  else if 'A' ≤ c ∧ c ≤ 'F' then some (c.toNat - 'A'.toNat + 10) else none

/-- The number that digits write. -/
def toNat? (digits : List Char) : Option Nat :=
  digits.foldlM (fun n c => (digit? c).map (16 * n + ·)) 0

/-- The bytes that digits write, two digits each. -/
def toBytes? : List Char → Option Bytes
  | [] => some []
  | a :: b :: rest => do
    let n ← toNat? [a, b]
    return UInt8.ofNat n :: (← toBytes? rest)
  | [_] => none

/-- A digest of bytes: each is mixed in by an exclusive or and a multiplication. -/
def digest (bytes : Bytes) : UInt64 :=
  bytes.foldl (fun h b => (h ^^^ b.toUInt64) * 0x100000001b3) 0xcbf29ce484222325

end Screencast.Hex
