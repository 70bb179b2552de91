import Screencast.Cursor.Basic

/-! # The host's memory of cursor bitmaps

A bitmap goes out in full once and is named by a number from then on. Nothing goes out while the
cursor stays as it is. The memory is bounded and starts over when it is full; a client that has
lost its own memory makes the host forget everything at once.
-/

namespace Screencast

/-- What a cursor looked like when it was told last: a preset, or a bitmap by its number. -/
inductive ShapeKey
  | preset (id : UInt32)
  | numbered (id : UInt32)
deriving DecidableEq, Repr

/-- The host's memory: the numbers of bitmaps, the next number, the state told last. -/
structure CursorCache where
  numbers : List (CursorBitmap × UInt32) := []
  next : UInt32 := 0
  last : Option (Int32 × Int32 × Bool × ShapeKey) := none
deriving DecidableEq, Repr

namespace CursorCache

instance : Inhabited CursorCache := ⟨{}⟩

def size (c : CursorCache) : Nat := c.numbers.length

/-- Forgets every bitmap and the state told last, but not which numbers have been used. -/
def invalidate (c : CursorCache) : CursorCache := { c with numbers := [], last := none }

/-- Gives a new bitmap the next number, starting over if the memory is full. -/
def remember (c : CursorCache) (bitmap : CursorBitmap) : CursorCache :=
  let kept := if cursorCacheEntries ≤ c.size then [] else c.numbers
  { c with numbers := (bitmap, c.next) :: kept, next := c.next + 1 }

/-- How an image is told: its key, its shape in a message, and the memory afterwards. -/
def describe (c : CursorCache) : CursorImage → ShapeKey × CursorShape × CursorCache
  | .preset id => (.preset id, .preset id, c)
  | .bitmap bitmap =>
    match c.numbers.lookup bitmap with
    | some id => (.numbered id, .cached id, c)
    | none => (.numbered c.next, .bitmap bitmap c.next, c.remember bitmap)

/-- The message that tells of a cursor, or `none` when the client knows it to be like this. -/
def update (c : CursorCache) (s : CursorState) : Option CursorInfo × CursorCache :=
  let (key, shape, c) := c.describe s.image
  let state := (s.x, s.y, s.visible, key)
  if c.last = some state then (none, c)
  else (some ⟨s.x, s.y, s.visible, shape⟩, { c with last := some state })

end CursorCache

end Screencast
