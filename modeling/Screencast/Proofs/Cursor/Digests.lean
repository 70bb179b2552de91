import Screencast.Cursor.Cache
import Screencast.Proofs.Wire.Digits

/-! # Telling bitmaps apart by digests

The host's memory may keep a digest of each bitmap in place of the bitmap. What is digested writes
down the whole bitmap (`Screencast.CursorBitmap.content_inj`), so as long as no two contents that
are in use have the same digest, such a memory does and tells just the same
(`Screencast.DigestCache.log_digested`) and keeps the digests of what the other one keeps
(`Screencast.DigestCache.after_digested`).
-/

namespace Screencast

/-- What happens to the host's memory. -/
inductive CursorEvent
  | snapshot (s : CursorState)
  | invalidate
deriving DecidableEq, Repr

/-- What was done with the host's memory, and what it told. -/
inductive CursorRecord
  | invalidated
  | updated (s : CursorState) (told : Option CursorInfo)
deriving DecidableEq, Repr

namespace CursorCache

/-- What the memory does on an event, and the memory afterwards. -/
def step (c : CursorCache) : CursorEvent → CursorRecord × CursorCache
  | .invalidate => (.invalidated, c.invalidate)
  | .snapshot s => (.updated s (c.update s).1, (c.update s).2)

/-- What was done with the memory and what it told, in order. -/
def log (c : CursorCache) : List CursorEvent → List CursorRecord
  | [] => []
  | e :: events => (c.step e).1 :: (c.step e).2.log events

/-- The memory after some events. -/
def after (c : CursorCache) (events : List CursorEvent) : CursorCache :=
  events.foldl (fun c e => (c.step e).2) c

end CursorCache

/-- What is digested of a bitmap: its size, its hot spot and its pixels. -/
def CursorBitmap.content (bitmap : CursorBitmap) : Bytes :=
  LittleEndian.write 4 bitmap.width.toNat ++ LittleEndian.write 4 bitmap.height.toNat ++
    LittleEndian.write 4 bitmap.hotspotX.toNat ++ LittleEndian.write 4 bitmap.hotspotY.toNat ++
    bitmap.data

private theorem write_toNat_inj {n m : UInt32}
    (same : LittleEndian.write 4 n.toNat = LittleEndian.write 4 m.toNat) : n = m := by
  have values := congrArg LittleEndian.read same
  rw [LittleEndian.read_write n.toNat_lt, LittleEndian.read_write m.toNat_lt] at values
  exact UInt32.toNat_inj.mp values

/-- What is digested tells bitmaps apart. -/
theorem CursorBitmap.content_inj {bitmap bitmap' : CursorBitmap}
    (same : bitmap.content = bitmap'.content) : bitmap = bitmap' := by
  rcases bitmap with ⟨width, height, hotspotX, hotspotY, data⟩
  rcases bitmap' with ⟨width', height', hotspotX', hotspotY', data'⟩
  simp only [content, List.append_assoc] at same
  obtain ⟨widths, same⟩ := List.append_inj same (by simp only [LittleEndian.length_write])
  obtain ⟨heights, same⟩ := List.append_inj same (by simp only [LittleEndian.length_write])
  obtain ⟨hotspotsX, same⟩ := List.append_inj same (by simp only [LittleEndian.length_write])
  obtain ⟨hotspotsY, rfl⟩ := List.append_inj same (by simp only [LittleEndian.length_write])
  rw [write_toNat_inj widths, write_toNat_inj heights, write_toNat_inj hotspotsX,
    write_toNat_inj hotspotsY]

/-- The bitmap that is seen with an event. -/
def CursorEvent.bitmap? : CursorEvent → Option CursorBitmap
  | .snapshot ⟨_, _, _, .bitmap bitmap⟩ => some bitmap
  | _ => none

/-- A host's memory that keeps digests in place of bitmaps. -/
structure DigestCache (κ : Type) where
  numbers : List (κ × UInt32) := []
  next : UInt32 := 0
  last : Option (Int32 × Int32 × Bool × ShapeKey) := none

namespace DigestCache

variable {κ : Type} (digest : Bytes → κ)

/-- Forgets every digest and the state told last. -/
def invalidate (d : DigestCache κ) : DigestCache κ := { d with numbers := [], last := none }

/-- Gives the digest of a new bitmap the next number. -/
def remember (d : DigestCache κ) (bitmap : CursorBitmap) : DigestCache κ :=
  let kept := if cursorCacheEntries ≤ d.numbers.length then [] else d.numbers
  { d with numbers := (digest bitmap.content, d.next) :: kept, next := d.next + 1 }

/-- How an image is told, when bitmaps are looked up by their digests. -/
def describe [DecidableEq κ] (d : DigestCache κ) :
    CursorImage → ShapeKey × CursorShape × DigestCache κ
  | .preset id => (.preset id, .preset id, d)
  | .bitmap bitmap =>
    match d.numbers.lookup (digest bitmap.content) with
    | some id => (.numbered id, .cached id, d)
    | none => (.numbered d.next, .bitmap bitmap d.next, d.remember digest bitmap)

/-- The message that tells of a cursor. -/
def update [DecidableEq κ] (d : DigestCache κ) (s : CursorState) :
    Option CursorInfo × DigestCache κ :=
  let (key, shape, d) := d.describe digest s.image
  let state := (s.x, s.y, s.visible, key)
  if d.last = some state then (none, d)
  else (some ⟨s.x, s.y, s.visible, shape⟩, { d with last := some state })

/-- What the memory does on an event, and the memory afterwards. -/
def step [DecidableEq κ] (d : DigestCache κ) : CursorEvent → CursorRecord × DigestCache κ
  | .invalidate => (.invalidated, d.invalidate)
  | .snapshot s => (.updated s (d.update digest s).1, (d.update digest s).2)

/-- What was done with the memory and what it told, in order. -/
def log [DecidableEq κ] (d : DigestCache κ) : List CursorEvent → List CursorRecord
  | [] => []
  | e :: events => (d.step digest e).1 :: (d.step digest e).2.log events

/-- The memory after some events. -/
def after [DecidableEq κ] (d : DigestCache κ) (events : List CursorEvent) : DigestCache κ :=
  events.foldl (fun d e => (d.step digest e).2) d

variable {digest}

/-- Bitmaps with the same digest are the same. -/
def TellsApart (digest : Bytes → κ) (bitmaps : List CursorBitmap) : Prop :=
  ∀ bitmap ∈ bitmaps, ∀ bitmap' ∈ bitmaps,
    digest bitmap.content = digest bitmap'.content → bitmap.content = bitmap'.content

/-- A memory keeps the digests of what another one keeps, and of these bitmaps only. -/
structure Digests (digest : Bytes → κ) (bitmaps : List CursorBitmap) (c : CursorCache)
    (d : DigestCache κ) : Prop where
  numbers : d.numbers = c.numbers.map fun entry => (digest entry.1.content, entry.2)
  next : d.next = c.next
  last : d.last = c.last
  known : ∀ entry ∈ c.numbers, entry.1 ∈ bitmaps

variable {bitmaps : List CursorBitmap} {c : CursorCache} {d : DigestCache κ}

/-- Memories that hold nothing are alike. -/
theorem digests_fresh : Digests digest bitmaps {} ({} : DigestCache κ) :=
  ⟨rfl, rfl, rfl, fun _ member => nomatch member⟩

/-- Forgetting everything keeps two memories alike. -/
theorem Digests.invalidate (digests : Digests digest bitmaps c d) :
    Digests digest bitmaps c.invalidate d.invalidate where
  numbers := rfl
  next := digests.next
  last := rfl
  known := by
    intro entry member
    cases member

private theorem Digests.tell (digests : Digests digest bitmaps c d)
    (last : Option (Int32 × Int32 × Bool × ShapeKey)) :
    Digests digest bitmaps { c with last } { d with last } :=
  ⟨digests.numbers, digests.next, rfl, digests.known⟩

/-- One more bitmap keeps two memories alike; both start over at the same moments. -/
theorem Digests.remember (digests : Digests digest bitmaps c d) {bitmap : CursorBitmap}
    (used : bitmap ∈ bitmaps) :
    Digests digest bitmaps (c.remember bitmap) (d.remember digest bitmap) := by
  have sizes : d.numbers.length = c.size := by
    rw [digests.numbers, List.length_map, CursorCache.size]
  unfold CursorCache.remember DigestCache.remember
  rw [sizes]
  by_cases full : cursorCacheEntries ≤ c.size
  · rw [if_pos full, if_pos full, digests.next]
    exact ⟨rfl, rfl, digests.last, fun entry member => List.mem_singleton.mp member ▸ used⟩
  · rw [if_neg full, if_neg full, digests.next, digests.numbers]
    refine ⟨rfl, rfl, digests.last, ?_⟩
    intro entry member
    rcases List.mem_cons.mp member with rfl | older
    · exact used
    · exact digests.known entry older

variable [DecidableEq κ]

/-- A bitmap is found by its digest exactly as it is found itself. -/
theorem lookup_digested (apart : TellsApart digest bitmaps) {bitmap : CursorBitmap}
    (used : bitmap ∈ bitmaps) {numbers : List (CursorBitmap × UInt32)}
    (known : ∀ entry ∈ numbers, entry.1 ∈ bitmaps) :
    (numbers.map fun entry => (digest entry.1.content, entry.2)).lookup (digest bitmap.content) =
      numbers.lookup bitmap := by
  induction numbers with
  | nil => rfl
  | cons entry older ih =>
      have same : (digest bitmap.content == digest entry.1.content) = (bitmap == entry.1) := by
        rw [Bool.eq_iff_iff, beq_iff_eq, beq_iff_eq]
        constructor
        · intro equal
          exact CursorBitmap.content_inj
            (apart bitmap used entry.1 (known entry (List.mem_cons_self ..)) equal)
        · rintro rfl
          rfl
      rw [List.map_cons, List.lookup_cons, List.lookup_cons, same,
        ih fun entry' member => known entry' (List.mem_cons_of_mem entry member)]

/-- An image of these is described alike. -/
theorem Digests.describe (digests : Digests digest bitmaps c d) (apart : TellsApart digest bitmaps)
    {image : CursorImage} (used : ∀ bitmap, image = .bitmap bitmap → bitmap ∈ bitmaps) :
    ∃ key shape c' d', c.describe image = (key, shape, c') ∧
      d.describe digest image = (key, shape, d') ∧ Digests digest bitmaps c' d' := by
  cases image with
  | preset id => exact ⟨.preset id, .preset id, c, d, rfl, rfl, digests⟩
  | bitmap bitmap =>
      have lookups : d.numbers.lookup (digest bitmap.content) = c.numbers.lookup bitmap := by
        rw [digests.numbers, lookup_digested apart (used bitmap rfl) digests.known]
      simp only [CursorCache.describe, DigestCache.describe, lookups, digests.next]
      cases c.numbers.lookup bitmap with
      | some id => exact ⟨.numbered id, .cached id, c, d, rfl, rfl, digests⟩
      | none =>
          exact ⟨.numbered c.next, .bitmap bitmap c.next, c.remember bitmap,
            d.remember digest bitmap, rfl, rfl, digests.remember (used bitmap rfl)⟩

/-- Such memories tell the same of a cursor. -/
theorem Digests.update (digests : Digests digest bitmaps c d) (apart : TellsApart digest bitmaps)
    {s : CursorState} (used : ∀ bitmap, s.image = .bitmap bitmap → bitmap ∈ bitmaps) :
    (d.update digest s).1 = (c.update s).1 ∧
      Digests digest bitmaps (c.update s).2 (d.update digest s).2 := by
  obtain ⟨key, shape, c', d', described, digested, digests'⟩ := digests.describe apart used
  unfold CursorCache.update DigestCache.update
  simp only [described, digested, digests'.last]
  by_cases same : c'.last = some (s.x, s.y, s.visible, key)
  · rw [if_pos same, if_pos same]
    exact ⟨rfl, digests'⟩
  · rw [if_neg same, if_neg same]
    exact ⟨rfl, digests'.tell _⟩

/-- Such memories do the same on an event. -/
theorem Digests.step (digests : Digests digest bitmaps c d) (apart : TellsApart digest bitmaps)
    {e : CursorEvent} (used : ∀ bitmap, e.bitmap? = some bitmap → bitmap ∈ bitmaps) :
    (d.step digest e).1 = (c.step e).1 ∧
      Digests digest bitmaps (c.step e).2 (d.step digest e).2 := by
  cases e with
  | invalidate => exact ⟨rfl, digests.invalidate⟩
  | snapshot s =>
      obtain ⟨told, digests'⟩ := digests.update apart (s := s) (by
        rcases s with ⟨x, y, visible, image⟩
        rintro bitmap rfl
        exact used bitmap rfl)
      exact ⟨congrArg (CursorRecord.updated s) told, digests'⟩

/-- Such memories do the same during a run in which no other bitmaps occur, and stay alike. -/
theorem Digests.run (digests : Digests digest bitmaps c d) (apart : TellsApart digest bitmaps)
    {events : List CursorEvent}
    (used : ∀ e ∈ events, ∀ bitmap, e.bitmap? = some bitmap → bitmap ∈ bitmaps) :
    d.log digest events = c.log events ∧
      Digests digest bitmaps (c.after events) (d.after digest events) := by
  induction events generalizing c d with
  | nil => exact ⟨rfl, digests⟩
  | cons e events ih =>
      obtain ⟨did, digests'⟩ := digests.step apart (used e (List.mem_cons_self ..))
      obtain ⟨later, alike⟩ := ih digests' fun e' member =>
        used e' (List.mem_cons_of_mem e member)
      rw [DigestCache.log, CursorCache.log, did, later]
      exact ⟨rfl, alike⟩

private theorem occurs {events : List CursorEvent} {e : CursorEvent} (member : e ∈ events)
    (bitmap : CursorBitmap) (seen : e.bitmap? = some bitmap) :
    bitmap ∈ events.filterMap CursorEvent.bitmap? :=
  List.mem_filterMap.mpr ⟨e, member, seen⟩

/-- Digests do as well as bitmaps if they tell apart those that occur. -/
theorem log_digested {events : List CursorEvent}
    (apart : TellsApart digest (events.filterMap CursorEvent.bitmap?)) :
    ({} : DigestCache κ).log digest events = ({} : CursorCache).log events :=
  (digests_fresh.run apart fun _ member => occurs member).1

/-- What is kept in the end are the digests of the bitmaps. -/
theorem after_digested {events : List CursorEvent}
    (apart : TellsApart digest (events.filterMap CursorEvent.bitmap?)) :
    Digests digest (events.filterMap CursorEvent.bitmap?) (({} : CursorCache).after events)
      (({} : DigestCache κ).after digest events) :=
  (digests_fresh.run apart fun _ member => occurs member).2

end DigestCache

end Screencast
