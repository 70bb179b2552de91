import Screencast.Zstd.Header

/-! # The room a reader needs

Blocks are unpacked into a room that must hold the window of a frame, or all of its content if
that is less. The room is kept from frame to frame. Content that is longer than the room goes
round in it and is not bounded by it; content that was announced to fit must fit.
-/

namespace Screencast.Zstd

/-- The room set aside for reading a stream, in bytes. -/
structure Room where
  input : Nat := 0
  output : Nat := 0
  /-- How many frames in a row could do with a third of it. -/
  spare : Nat := 0
deriving DecidableEq, Repr

namespace Room

/-- After so many frames that need much less room it is made as small as they need. -/
def patience : Nat := 128

/-- What a skipped frame needs besides its content: the least window. -/
def leastOutput : Nat := 1024 + 64

/-- Room for a frame that needs this much: the old one, unless it is too small or far too large. -/
def provide (r : Room) (input output : Nat) : Room :=
  let spare := if (input + output) * 3 ≤ r.input + r.output then r.spare + 1 else 0
  if r.input < input ∨ r.output < output ∨ patience ≤ spare then ⟨input, output, spare⟩
  else { r with spare }

/-- Room for a frame that is unpacked block by block. -/
def provideFor (r : Room) (h : Header) : Room :=
  r.provide h.blockLimit (min (h.contentSize.getD unknownSize) (h.window + h.blockLimit * 2 + 64))

/-- Room for a frame of so many bytes that is skipped. -/
def provideForSkipped (r : Room) (size : Nat) : Room := r.provide 4 (min size leastOutput)

/-- Whether a frame may unpack to so many bytes. -/
def holds (r : Room) (h : Header) (length : Nat) : Bool :=
  r.output < h.contentSize.getD unknownSize || length ≤ r.output

end Room

end Screencast.Zstd
