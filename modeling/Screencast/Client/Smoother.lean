import Screencast.Media.Picture

/-! # The slot between decoding and rendering

At most one decoded picture waits for the render thread; a newer one takes the place of one that
has not been shown.
-/

namespace Screencast

/-- A decoded picture that waits to be shown. Times are in microseconds. -/
structure WaitingFrame where
  resource : Resource
  captureTime : UInt64
  arrivalTime : UInt64
deriving DecidableEq, Repr, Inhabited

/-- The slot, and how many pictures went through it or were replaced in it. -/
structure Smoother where
  slot : Option WaitingFrame := none
  pushed : Nat := 0
  dropped : Nat := 0
deriving DecidableEq, Repr

namespace Smoother

instance : Inhabited Smoother := ⟨{}⟩

def size (s : Smoother) : Nat := if s.slot.isSome then 1 else 0

/-- Puts a picture into the slot. -/
def push (s : Smoother) (f : WaitingFrame) : Smoother :=
  ⟨some f, s.pushed + 1, s.dropped + s.size⟩

/-- The waiting picture, if it had arrived by `time`. -/
def get (s : Smoother) (time : UInt64) : Option WaitingFrame :=
  s.slot.filter fun f => decide (f.arrivalTime ≤ time)

/-- Takes the picture out of the slot, whenever it arrived. -/
def pop (s : Smoother) : Option WaitingFrame × Smoother := (s.slot, { s with slot := none })

end Smoother

end Screencast
