import Screencast.Client.Smoother
import Screencast.Cursor.Store

/-! # What the client's threads share

The waiting picture, the cursor and the display settings, together with the reasons for which the
render thread should look at them again.
-/

namespace Screencast

/-- How local mouse movement moves the remote pointer. -/
inductive MouseMode
  | absolute | relative
deriving DecidableEq, Repr, Inhabited

def MouseMode.label : MouseMode → String
  | absolute => "Absolute"
  | relative => "Relative"

/-- Reasons to wake the render thread. -/
structure Wake where
  frame : Bool := false
  cursor : Bool := false
  mouseMode : Bool := false
  stretch : Bool := false
deriving DecidableEq, Repr, Inhabited

namespace Wake

def union (a b : Wake) : Wake :=
  ⟨a.frame || b.frame, a.cursor || b.cursor, a.mouseMode || b.mouseMode, a.stretch || b.stretch⟩

def isEmpty (w : Wake) : Bool := !(w.frame || w.cursor || w.mouseMode || w.stretch)

/-- The reasons as a number of four bits. -/
def toBits (w : Wake) : Nat :=
  w.frame.toNat + 2 * w.cursor.toNat + 4 * w.mouseMode.toNat + 8 * w.stretch.toNat

end Wake

/-- The state under the render lock. -/
structure RenderSlot where
  smoother : Smoother := {}
  wake : Wake := {}
  store : CursorStore := {}
  cursor : Option CursorState := none
  mouseMode : MouseMode := .absolute
  stretch : Bool
deriving DecidableEq, Repr

namespace RenderSlot

def new (stretch : Bool) : RenderSlot := { stretch }

def addWake (s : RenderSlot) (w : Wake) : RenderSlot := { s with wake := s.wake.union w }

/-- Takes the reasons that have come together. -/
def takeWake (s : RenderSlot) : Wake × RenderSlot := (s.wake, { s with wake := {} })

/-- A decoded picture waits to be shown. -/
def pushFrame (s : RenderSlot) (f : WaitingFrame) : RenderSlot :=
  { s with smoother := s.smoother.push f }.addWake { frame := true }

/-- The host tells of a cursor; one that cannot be told changes nothing. -/
def setCursor (s : RenderSlot) (info : CursorInfo) : RenderSlot :=
  match s.store.resolve info with
  | (some state, store) => { s with store, cursor := some state }.addWake { cursor := true }
  | (none, store) => { s with store }

def setMouseMode (s : RenderSlot) (mode : MouseMode) : RenderSlot :=
  { s with mouseMode := mode }.addWake { mouseMode := true }

def setStretch (s : RenderSlot) (stretch : Bool) : RenderSlot :=
  { s with stretch }.addWake { stretch := true }

end RenderSlot

end Screencast
