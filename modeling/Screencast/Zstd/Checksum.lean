import Screencast.Bytes

/-! # Content checksums

The 64-bit hash whose lower half may close a compressed frame. Four lanes take eight bytes each
of every 32; the rest is mixed in eight, four and one byte at a time.
-/

namespace Screencast.Zstd

namespace Checksum

def prime1 : UInt64 := 0x9E3779B185EBCA87
def prime2 : UInt64 := 0xC2B2AE3D27D4EB4F
def prime3 : UInt64 := 0x165667B19E3779F9
def prime4 : UInt64 := 0x85EBCA77C2B2AE63
def prime5 : UInt64 := 0x27D4EB2F165667C5

def rotate (x k : UInt64) : UInt64 := (x <<< k) ||| (x >>> (64 - k))

/-- One lane takes in eight bytes. -/
def round (lane input : UInt64) : UInt64 := rotate (lane + input * prime2) 31 * prime1

/-- The four lanes. -/
structure Lanes where
  a : UInt64 := prime1 + prime2
  b : UInt64 := prime2
  c : UInt64 := 0
  d : UInt64 := 0 - prime1

def word (bytes : Bytes) (offset : Nat) : UInt64 :=
  UInt64.ofNat (LittleEndian.read ((bytes.drop offset).take 8))

def Lanes.absorb (l : Lanes) (stripe : Bytes) : Lanes :=
  ⟨round l.a (word stripe 0), round l.b (word stripe 8), round l.c (word stripe 16),
    round l.d (word stripe 24)⟩

/-- Feeds all whole stripes of 32 bytes to the lanes; `fuel` bounds their number. -/
def stripes : Nat → Lanes → Bytes → Lanes × Bytes
  | 0, l, bytes => (l, bytes)
  | fuel + 1, l, bytes =>
    if bytes.length < 32 then (l, bytes) else stripes fuel (l.absorb bytes) (bytes.drop 32)

def Lanes.merge (l : Lanes) : UInt64 :=
  let sum := rotate l.a 1 + rotate l.b 7 + rotate l.c 12 + rotate l.d 18
  [l.a, l.b, l.c, l.d].foldl (fun h lane => (h ^^^ round 0 lane) * prime1 + prime4) sum

/-- Mixes in what is left after the stripes; `fuel` bounds the steps. -/
def tail : Nat → UInt64 → Bytes → UInt64
  | 0, h, _ => h
  | fuel + 1, h, bytes =>
    if 8 ≤ bytes.length then
      tail fuel (rotate (h ^^^ round 0 (word bytes 0)) 27 * prime1 + prime4) (bytes.drop 8)
    else if 4 ≤ bytes.length then
      let input := UInt64.ofNat (LittleEndian.read (bytes.take 4))
      tail fuel (rotate (h ^^^ (input * prime1)) 23 * prime2 + prime3) (bytes.drop 4)
    else match bytes with
      | [] => h
      | b :: rest => tail fuel (rotate (h ^^^ (b.toUInt64 * prime5)) 11 * prime1) rest

def avalanche (h : UInt64) : UInt64 :=
  let h := (h ^^^ (h >>> 33)) * prime2
  let h := (h ^^^ (h >>> 29)) * prime3
  h ^^^ (h >>> 32)

end Checksum

/-- The 64-bit hash of bytes. -/
def checksum (bytes : Bytes) : UInt64 :=
  let (lanes, rest) := Checksum.stripes bytes.length {} bytes
  let h := if bytes.length < 32 then Checksum.prime5 else lanes.merge
  Checksum.avalanche (Checksum.tail (rest.length + 1) (h + UInt64.ofNat bytes.length) rest)

end Screencast.Zstd
