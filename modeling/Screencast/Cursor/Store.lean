import Screencast.Cursor.Basic

/-! # The client's memory of cursor bitmaps

Bitmaps by the numbers the host gave them. The memory has the host's bound and starts over when
the host does.
-/

namespace Screencast

/-- The client's memory: bitmaps by number. -/
structure CursorStore where
  bitmaps : List (UInt32 × CursorBitmap) := []
deriving DecidableEq, Repr

namespace CursorStore

instance : Inhabited CursorStore := ⟨{}⟩

def size (s : CursorStore) : Nat := s.bitmaps.length

def find? (s : CursorStore) (id : UInt32) : Option CursorBitmap := s.bitmaps.lookup id

/-- Remembers a bitmap. A number not known yet makes a full memory start over. -/
def insert (s : CursorStore) (id : UInt32) (bitmap : CursorBitmap) : CursorStore :=
  if (s.find? id).isSome then ⟨(id, bitmap) :: s.bitmaps.filter (·.1 != id)⟩
  else if cursorCacheEntries ≤ s.size then ⟨[(id, bitmap)]⟩
  else ⟨(id, bitmap) :: s.bitmaps⟩

/-- The cursor a message tells of, unless it names a bitmap that was never received. -/
def resolve (s : CursorStore) (info : CursorInfo) : Option CursorState × CursorStore :=
  let state (image : CursorImage) : CursorState := ⟨info.x, info.y, info.visible, image⟩
  match info.shape with
  | .preset id => (some (state (.preset id)), s)
  | .bitmap bitmap id => (some (state (.bitmap bitmap)), s.insert id bitmap)
  | .cached id => ((s.find? id).map fun bitmap => state (.bitmap bitmap), s)

end CursorStore

end Screencast
