import Screencast.Media.Picture

/-! # Cursors

The pointer as it stands on a desktop, and as a message describes it. A message need not repeat
a bitmap the other end holds: it may name it by a number given to it earlier.
-/

namespace Screencast

/-- A cursor bitmap, four bytes a pixel, tightly packed. -/
structure CursorBitmap where
  width : UInt32
  height : UInt32
  hotspotX : UInt32
  hotspotY : UInt32
  data : Bytes
deriving DecidableEq, Repr, Inhabited

/-- What a cursor looks like: one of the system's own, or a bitmap. -/
inductive CursorImage
  | preset (id : UInt32)
  | bitmap (bitmap : CursorBitmap)
deriving DecidableEq, Repr, Inhabited

/-- A cursor on a screen. -/
structure CursorState where
  x : Int32
  y : Int32
  visible : Bool
  image : CursorImage
deriving DecidableEq, Repr, Inhabited

/-- How a message tells what a cursor looks like. -/
inductive CursorShape
  | preset (id : UInt32)
  /-- A bitmap in full, with the number it can be named by from now on. -/
  | bitmap (bitmap : CursorBitmap) (id : UInt32)
  /-- A bitmap sent before, by its number. -/
  | cached (id : UInt32)
deriving DecidableEq, Repr, Inhabited

/-- A cursor as a message describes it. -/
structure CursorInfo where
  x : Int32
  y : Int32
  visible : Bool
  shape : CursorShape
deriving DecidableEq, Repr, Inhabited

/-- The most bitmaps either end remembers. Both ends start over when one more would be too many, so
that they forget at the same moments. -/
def cursorCacheEntries : Nat := 256

end Screencast
