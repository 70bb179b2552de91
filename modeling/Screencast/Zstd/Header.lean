import Screencast.Bytes

/-! # Frame headers

A frame says at its start how much of its content a reader has to hold, and may say how long the
content is. From this the reader decides how it unpacks the frame: short content that is
announced is unpacked at once, everything else block by block.
-/

namespace Screencast.Zstd

/-- A number of `width` bytes. -/
def number? (width : Nat) (input : Bytes) : Option (Nat × Bytes) :=
  (splitBytes? width input).map fun (digits, rest) => (LittleEndian.read digits, rest)

/-- The longest block. -/
def blockLimit : Nat := 128 * 1024

/-- The widest window a reader is willing to hold. -/
def windowLimit : Nat := 1 <<< 27 + 1

/-- Up to this length a content that is announced is unpacked at once, without a window. -/
def directLimit : Nat := 8192

/-- The size that stands for an unknown one. -/
def unknownSize : Nat := UInt64.size - 1

/-- What a frame header announces. -/
structure Header where
  window : Nat
  contentSize : Option Nat
  hasChecksum : Bool
deriving DecidableEq, Repr

/-- The window that a descriptor byte stands for: a power of two, up to the 31st, and some eighths
of it. -/
def windowOf? (descriptor : Nat) : Option Nat :=
  let base := 1 <<< (10 + descriptor / 8)
  if 31 < 10 + descriptor / 8 then none else some (base + base / 8 * (descriptor % 8))

namespace Header

/-- Whether the content is unpacked at once. -/
def isDirect (h : Header) : Bool := h.contentSize.any (· ≤ directLimit)

/-- The longest block of the frame. -/
def blockLimit (h : Header) : Nat :=
  if h.isDirect then directLimit else min h.window Zstd.blockLimit

/-- Reads the header after the frame's magic number: a descriptor byte, the window unless the whole
content is the window, the number of a dictionary, the size of the content. No dictionary is known
but none. -/
def read? (input : Bytes) : Option (Header × Bytes) := do
  let (descriptor, rest) ← number? 1 input
  let sizeFlag := descriptor / 64
  let isSingle := descriptor / 32 % 2 == 1
  if descriptor / 8 % 2 == 1 then none
  let (window, rest) ← if isSingle then some (none, rest) else do
    let (w, rest) ← number? 1 rest
    some (some (← windowOf? w), rest)
  let (dictionary, rest) ← number? ([0, 1, 2, 4].getD (descriptor % 4) 0) rest
  if dictionary ≠ 0 then none
  let width := [if isSingle then 1 else 0, 2, 4, 8].getD sizeFlag 0
  let (digits, rest) ← number? width rest
  let size := if width = 0 then unknownSize else if width = 2 then digits + 256 else digits
  let contentSize := if size = unknownSize then none else some size
  some (⟨window.getD size, contentSize, descriptor / 4 % 2 == 1⟩, rest)

end Header

end Screencast.Zstd
