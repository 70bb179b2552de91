import Screencast.Proofs.Cursor.Numbering

/-! # All that telling of a cursor can do

An update of the host's memory does one of four things
(`Screencast.CursorCache.Tells`): it tells nothing, because this is what was told last; it names a
preset; it names a bitmap by the number it has; or it tells of a bitmap in full. The number told
last is always one in use (`Screencast.CursorCache.LastHeld`), so that a bitmap told in full is
never mistaken for what was told last.
-/

namespace Screencast.CursorCache

/-- Keeps what was told of a cursor. -/
def tell (c : CursorCache) (s : CursorState) (key : ShapeKey) : CursorCache :=
  { c with last := some (s.x, s.y, s.visible, key) }

/-- A key names an image to a client that has what the host's memory holds. -/
inductive Names (c : CursorCache) : ShapeKey → CursorImage → Prop
  | preset (id : UInt32) : c.Names (.preset id) (.preset id)
  | numbered (bitmap : CursorBitmap) (id : UInt32) (found : c.numbers.lookup bitmap = some id) :
      c.Names (.numbered id) (.bitmap bitmap)

/-- What an update tells of a cursor, and the memory after it. -/
inductive Tells (c : CursorCache) (s : CursorState) : Option CursorInfo × CursorCache → Prop
  /-- Nothing is told of what was told last. -/
  | nothing (key : ShapeKey) (same : c.last = some (s.x, s.y, s.visible, key))
      (names : c.Names key s.image) : c.Tells s (none, c)
  | preset (id : UInt32) (image : s.image = .preset id) :
      c.Tells s (some ⟨s.x, s.y, s.visible, .preset id⟩, c.tell s (.preset id))
  | number (bitmap : CursorBitmap) (id : UInt32) (image : s.image = .bitmap bitmap)
      (found : c.numbers.lookup bitmap = some id) :
      c.Tells s (some ⟨s.x, s.y, s.visible, .cached id⟩, c.tell s (.numbered id))
  /-- A bitmap without a number is told in full and gets the next one. -/
  | bitmap (bitmap : CursorBitmap) (image : s.image = .bitmap bitmap)
      (unknown : c.numbers.lookup bitmap = none) :
      c.Tells s (some ⟨s.x, s.y, s.visible, .bitmap bitmap c.next⟩,
        (c.remember bitmap).tell s (.numbered c.next))

/-- What was told last, if a bitmap, has a number that is in use. -/
def LastHeld (c : CursorCache) : Prop :=
  ∀ x y visible id, c.last = some (x, y, visible, .numbered id) →
    ∃ bitmap, (bitmap, id) ∈ c.numbers

/-- Something is told unless it is what was told last. -/
theorem update_of_describe {c c' : CursorCache} {s : CursorState} {key : ShapeKey}
    {shape : CursorShape} (described : c.describe s.image = (key, shape, c')) :
    c.update s =
      if c'.last = some (s.x, s.y, s.visible, key) then (none, c')
      else (some ⟨s.x, s.y, s.visible, shape⟩, c'.tell s key) := by
  unfold update
  rw [described]
  rfl

/-- An update does one of these things, unless the next number is the one told last. -/
theorem update_tells {c : CursorCache} (unused : ∀ x y visible,
    c.last ≠ some (x, y, visible, .numbered c.next)) (s : CursorState) :
    c.Tells s (c.update s) := by
  cases image : s.image with
  | preset id =>
      have described : c.describe s.image = (.preset id, .preset id, c) := by rw [image]; rfl
      rw [update_of_describe described]
      by_cases same : c.last = some (s.x, s.y, s.visible, .preset id)
      · rw [if_pos same]
        exact .nothing _ same (image ▸ .preset id)
      · rw [if_neg same]
        exact .preset id image
  | bitmap bitmap =>
      cases found : c.numbers.lookup bitmap with
      | some id =>
          have described : c.describe s.image = (.numbered id, .cached id, c) := by
            rw [image]
            simp only [describe, found]
          rw [update_of_describe described]
          by_cases same : c.last = some (s.x, s.y, s.visible, .numbered id)
          · rw [if_pos same]
            exact .nothing _ same (image ▸ .numbered bitmap id found)
          · rw [if_neg same]
            exact .number bitmap id image found
      | none =>
          have described : c.describe s.image =
              (.numbered c.next, .bitmap bitmap c.next, c.remember bitmap) := by
            rw [image]
            simp only [describe, found]
          have told : (c.remember bitmap).last ≠ some (s.x, s.y, s.visible, .numbered c.next) :=
            unused s.x s.y s.visible
          rw [update_of_describe described, if_neg told]
          exact .bitmap bitmap image found

/-- A memory that forgets has no last image either. -/
theorem LastHeld.invalidate (c : CursorCache) : c.invalidate.LastHeld := by
  intro x y visible id last
  cases last

/-- What has just been told has a number in use. -/
theorem lastHeld_tell {c : CursorCache} {s : CursorState} {key : ShapeKey}
    (member : ∀ id, key = .numbered id → ∃ bitmap, (bitmap, id) ∈ c.numbers) :
    (c.tell s key).LastHeld := by
  intro x y visible id last
  cases last
  exact member id rfl

/-- An update keeps the number told last in use. -/
theorem Tells.lastHeld {c c' : CursorCache} {s : CursorState} {info : Option CursorInfo}
    (tells : c.Tells s (info, c')) (held : c.LastHeld) : c'.LastHeld := by
  cases tells with
  | nothing key same names => exact held
  | preset id image =>
      exact lastHeld_tell (by simp only [reduceCtorEq, false_implies, implies_true])
  | number bitmap id image found =>
      obtain ⟨before, after, split, _⟩ := List.lookup_eq_some_iff.mp found
      refine lastHeld_tell fun id' same => ⟨bitmap, ?_⟩
      cases same
      rw [split]
      exact List.mem_append_right before (List.mem_cons_self ..)
  | bitmap bitmap image unknown =>
      refine lastHeld_tell fun id' same => ⟨bitmap, ?_⟩
      cases same
      exact List.mem_cons_self ..

end Screencast.CursorCache

namespace Screencast.CursorsAgree

variable {cache : CursorCache} {store : CursorStore} {sent : List CursorBitmap} {k m : Nat}

/-- The next number is in use for no bitmap. -/
theorem next_free (agree : CursorsAgree cache store sent k m) (bitmap : CursorBitmap) :
    (bitmap, cache.next) ∉ cache.numbers := by
  intro member
  have small : k ≤ 256 := agree.cacheSize.2
  rw [agree.numbers] at member
  have free : (byNumber ((numbered sent).take k)).lookup cache.next = none := by
    rw [agree.next]
    exact lookup_byNumber_next (by omega)
  rw [List.lookup_eq_none_iff] at free
  have apart := free (cache.next, bitmap) (List.mem_map.mpr ⟨_, member, rfl⟩)
  simp only [bne_self_eq_false, Bool.false_eq_true] at apart

/-- So it is not the one told last. -/
theorem next_unused (agree : CursorsAgree cache store sent k m) (held : cache.LastHeld)
    (x y : Int32) (visible : Bool) : cache.last ≠ some (x, y, visible, .numbered cache.next) := by
  intro last
  obtain ⟨bitmap, member⟩ := held x y visible cache.next last
  exact agree.next_free bitmap member

end Screencast.CursorsAgree
