import Screencast.Proofs.Cursor.Digests
import Screencast.Proofs.Cursor.LockStep
import Screencast.Proofs.History

/-! # What is told of a cursor, and what is not

Whether a cursor has changed is decided by numbers, which are forgotten, start over and wrap around.
Told by the history of the host's memory, it comes to the cursors themselves: nothing is told
exactly if the call before was an update with the same cursor, and a bitmap goes out in full exactly
if it has not gone out since the memory was emptied, be it by an invalidation or because it was full
(`Screencast.CursorCache.told_if_changed`).
-/

namespace Screencast

namespace CursorRecord

/-- The bitmap that was told in full, with its number. -/
def insertion? : CursorRecord → Option (CursorBitmap × UInt32)
  | updated _ (some ⟨_, _, _, .bitmap bitmap id⟩) => some (bitmap, id)
  | _ => none

/-- The bitmaps told in full since the memory was last invalidated, the oldest first. -/
def inserted (past : List CursorRecord) : List (CursorBitmap × UInt32) :=
  (past.rtakeWhile (· ≠ invalidated)).filterMap insertion?

/-- Those of them that were told since the memory last started over, which it does whenever it has
taken in 256 and one more comes. -/
def inUse (past : List CursorRecord) : List (CursorBitmap × UInt32) :=
  (inserted past).drop (((inserted past).length - 1) / cursorCacheEntries * cursorCacheEntries)

variable {past : List CursorRecord} {s : CursorState} {told : Option CursorInfo}

private theorem inserted_updated :
    inserted (past ++ [updated s told]) =
      inserted past ++ (updated s told).insertion?.toList := by
  unfold inserted
  rw [List.rtakeWhile_concat, if_pos (decide_eq_true CursorRecord.noConfusion),
    History.filterMap_concat]

private theorem inUse_invalidated : inUse (past ++ [invalidated]) = [] := by
  have nothing : inserted (past ++ [invalidated]) = [] := by
    unfold inserted
    rw [List.rtakeWhile_concat, if_neg (by decide)]
    rfl
  rw [inUse, nothing]
  rfl

/-- What is not told in full uses no number. -/
theorem inUse_of_none (nothing : (updated s told).insertion? = none) :
    inUse (past ++ [updated s told]) = inUse past := by
  have same : inserted (past ++ [updated s told]) = inserted past := by
    rw [inserted_updated, nothing]
    exact List.append_nil _
  rw [inUse, same, inUse]

/-- One more bitmap drives out all others if there are 256 of them. -/
theorem inUse_of_some {entry : CursorBitmap × UInt32}
    (new : (updated s told).insertion? = some entry) :
    inUse (past ++ [updated s told]) =
      (if cursorCacheEntries ≤ (inUse past).length then [] else inUse past) ++ [entry] := by
  have more : inserted (past ++ [updated s told]) = inserted past ++ [entry] := by
    rw [inserted_updated, new]
    rfl
  have length : (inUse past).length = (inserted past).length -
      ((inserted past).length - 1) / cursorCacheEntries * cursorCacheEntries := List.length_drop
  rw [inUse, more, List.length_append, List.length_singleton, Nat.add_sub_cancel]
  by_cases full : cursorCacheEntries ≤ (inUse past).length
  · have whole : (inserted past).length / cursorCacheEntries * cursorCacheEntries =
        (inserted past).length := by
      unfold cursorCacheEntries at *
      omega
    rw [if_pos full, whole, List.drop_left]
    rfl
  · have same : (inserted past).length / cursorCacheEntries * cursorCacheEntries =
        ((inserted past).length - 1) / cursorCacheEntries * cursorCacheEntries := by
      unfold cursorCacheEntries at *
      omega
    rw [if_neg full, same, List.drop_append_of_le_length, inUse]
    unfold cursorCacheEntries at *
    omega

end CursorRecord

namespace CursorCache

open CursorRecord

variable {c : CursorCache} {s : CursorState} {past : List CursorRecord}

/-- Nothing is told of a cursor that was told last. -/
theorem update_of_names {key : ShapeKey} (same : c.last = some (s.x, s.y, s.visible, key))
    (names : c.Names key s.image) : c.update s = (none, c) := by
  obtain ⟨shape, described⟩ : ∃ shape, c.describe s.image = (key, shape, c) := by
    generalize s.image = image at names
    cases names with
    | preset id => exact ⟨_, rfl⟩
    | numbered bitmap id found => exact ⟨.cached id, by simp only [describe, found]⟩
  rw [update_of_describe described, if_pos same]

/-- What is told besides a bitmap. -/
theorem Tells.rest {after : Option CursorInfo × CursorCache} (tells : c.Tells s after)
    {info : CursorInfo} (told : after.1 = some info) :
    info.x = s.x ∧ info.y = s.y ∧ info.visible = s.visible ∧
      ∀ id, s.image = .preset id → info.shape = .preset id := by
  cases tells with
  | nothing => cases told
  | preset id image =>
      cases told
      refine ⟨rfl, rfl, rfl, fun id' image' => ?_⟩
      cases image.symm.trans image'
      rfl
  | number bitmap id image =>
      cases told
      exact ⟨rfl, rfl, rfl, fun id' image' => nomatch image.symm.trans image'⟩
  | bitmap bitmap image =>
      cases told
      exact ⟨rfl, rfl, rfl, fun id' image' => nomatch image.symm.trans image'⟩

private theorem log_concat (c : CursorCache) (events : List CursorEvent) (e : CursorEvent) :
    c.log (events ++ [e]) = c.log events ++ [((c.after events).step e).1] := by
  induction events generalizing c with
  | nil => rfl
  | cons e' events ih =>
      rw [List.cons_append, log, log, ih, List.cons_append]
      rfl

/-- The host's part of two memories that mirror each other. -/
def Sound (c : CursorCache) : Prop :=
  ∃ session : CursorSession, session.cache = c ∧ ∃ sent k, session.Mirrored sent k

private theorem sound_fresh : Sound {} := ⟨{}, rfl, [], 0, CursorSession.mirrored_fresh⟩

/-- A forgotten memory names no image. -/
theorem Sound.invalidate (sound : c.Sound) : c.invalidate.Sound := by
  obtain ⟨session, rfl, sent, k, mirrored⟩ := sound
  exact ⟨session.step .resync, rfl, sent, 0, mirrored.resync⟩

/-- What a sound memory sends for a state is told as the state asks. -/
theorem Sound.tells (sound : c.Sound) (s : CursorState) : c.Tells s (c.update s) := by
  obtain ⟨session, rfl, sent, k, mirrored⟩ := sound
  exact update_tells (mirrored.agree.next_unused mirrored.held) s

/-- A new cursor state keeps the names apart. -/
theorem Sound.update (sound : c.Sound) (s : CursorState) : (c.update s).2.Sound := by
  obtain ⟨session, rfl, sent, k, mirrored⟩ := sound
  refine ⟨session.step (.snapshot s), ?_, (mirrored.shows s).mirrored⟩
  simp only [CursorSession.step, CursorLink.step]
  rcases session.cache.update s with ⟨_ | info, after⟩
  · rfl
  · rfl

/-- One key names one image. -/
theorem Sound.names_unique (sound : c.Sound) {key : ShapeKey} {image image' : CursorImage}
    (names : c.Names key image) (names' : c.Names key image') : image = image' := by
  obtain ⟨session, rfl, sent, k, mirrored⟩ := sound
  exact mirrored.names_unique names names'

/-- The next number is in use for no bitmap. -/
theorem Sound.next_free (sound : c.Sound) (bitmap : CursorBitmap) :
    (bitmap, c.next) ∉ c.numbers := by
  obtain ⟨session, rfl, sent, k, mirrored⟩ := sound
  exact mirrored.agree.next_free bitmap

/-- A bitmap has one number at a time. -/
theorem Sound.lookup_of_mem (sound : c.Sound) {bitmap : CursorBitmap} {id : UInt32}
    (member : (bitmap, id) ∈ c.numbers) : c.numbers.lookup bitmap = some id := by
  obtain ⟨session, rfl, sent, k, mirrored⟩ := sound
  exact mirrored.lookup_of_mem member

/-- What the memory keeps of its past. -/
structure Recalls (past : List CursorRecord) (c : CursorCache) : Prop where
  sound : c.Sound
  numbers : c.numbers = (inUse past).reverse
  last : ∀ s told, past.getLast? = some (.updated s told) →
    ∃ key, c.last = some (s.x, s.y, s.visible, key) ∧ c.Names key s.image
  silent : (∀ s told, past.getLast? ≠ some (.updated s told)) → c.last = none

private theorem recalls_fresh : Recalls [] {} where
  sound := sound_fresh
  numbers := rfl
  last := by
    intro s told nothing
    cases nothing
  silent := fun _ => rfl

/-- Forgetting keeps the memory in step with the log. -/
theorem Recalls.invalidate (recalls : Recalls past c) :
    Recalls (past ++ [.invalidated]) c.invalidate where
  sound := recalls.sound.invalidate
  numbers := by
    rw [inUse_invalidated]
    rfl
  last := by
    intro s told latest
    rw [List.getLast?_concat] at latest
    cases latest
  silent := fun _ => rfl

/-- After an update, what it was given is what was told last. -/
theorem recalls_updated {told : Option CursorInfo} {key : ShapeKey} (sound : c.Sound)
    (numbers : c.numbers = (inUse (past ++ [.updated s told])).reverse)
    (last : c.last = some (s.x, s.y, s.visible, key)) (names : c.Names key s.image) :
    Recalls (past ++ [.updated s told]) c where
  sound := sound
  numbers := numbers
  last := by
    intro s' told' latest
    rw [List.getLast?_concat] at latest
    cases latest
    exact ⟨key, last, names⟩
  silent := by
    intro never
    exact absurd List.getLast?_concat (never s told)

/-- A new cursor state keeps the memory in step with the log. -/
theorem Recalls.update (recalls : Recalls past c) (s : CursorState) :
    Recalls (past ++ [.updated s (c.update s).1]) (c.update s).2 := by
  have tells := recalls.sound.tells s
  have sound := recalls.sound.update s
  generalize c.update s = after at tells sound ⊢
  cases tells with
  | nothing key same names =>
      refine recalls_updated sound ?_ same names
      rw [inUse_of_none rfl]
      exact recalls.numbers
  | preset id image =>
      refine recalls_updated sound ?_ rfl (image ▸ .preset id)
      rw [inUse_of_none rfl]
      exact recalls.numbers
  | number bitmap id image found =>
      refine recalls_updated sound ?_ rfl (image ▸ .numbered bitmap id found)
      rw [inUse_of_none rfl]
      exact recalls.numbers
  | bitmap bitmap image unknown =>
      refine recalls_updated sound ?_ rfl (image ▸ .numbered bitmap _ List.lookup_cons_self)
      rw [inUse_of_some rfl, List.reverse_append]
      have size : c.size = (inUse past).length := by
        rw [size, recalls.numbers, List.length_reverse]
      change (bitmap, c.next) :: (if cursorCacheEntries ≤ c.size then [] else c.numbers) = _
      rw [size, recalls.numbers]
      by_cases full : cursorCacheEntries ≤ (inUse past).length
      · rw [if_pos full, if_pos full]
        rfl
      · rw [if_neg full, if_neg full]
        rfl

/-- The memory stays in step over every run of events. -/
theorem Recalls.after (recalls : Recalls past c) (events : List CursorEvent) :
    Recalls (past ++ c.log events) (c.after events) := by
  induction events generalizing c past with
  | nil =>
      rw [log, List.append_nil]
      exact recalls
  | cons e events ih =>
      rw [log, List.append_cons]
      cases e with
      | invalidate => exact ih recalls.invalidate
      | snapshot s => exact ih (recalls.update s)

private theorem Recalls.mem_inUse (recalls : Recalls past c) {entry : CursorBitmap × UInt32} :
    entry ∈ inUse past ↔ entry ∈ c.numbers := by
  rw [recalls.numbers, List.mem_reverse]

/-- A bitmap is in use with the number it is known by. -/
theorem Recalls.mem_inUse_iff_lookup (recalls : Recalls past c) {bitmap : CursorBitmap}
    {id : UInt32} : (bitmap, id) ∈ inUse past ↔ c.numbers.lookup bitmap = some id := by
  rw [recalls.mem_inUse]
  constructor
  · exact recalls.sound.lookup_of_mem
  · intro found
    obtain ⟨newer, older, split, _⟩ := List.lookup_eq_some_iff.mp found
    rw [split]
    exact List.mem_append_right newer (List.mem_cons_self ..)

/-- Nothing is told exactly of a cursor that the call before was about. -/
theorem Recalls.told_eq_none_iff (recalls : Recalls past c) :
    (c.update s).1 = none ↔ ∃ before, past.getLast? = some (.updated s before) := by
  constructor
  · intro nothing
    have tells := recalls.sound.tells s
    generalize c.update s = after at tells nothing
    cases tells with
    | nothing key same names =>
        have told : ∃ s' before, past.getLast? = some (.updated s' before) := by
          by_contra never
          push Not at never
          rw [recalls.silent never] at same
          cases same
        obtain ⟨s', before, latest⟩ := told
        obtain ⟨key', same', names'⟩ := recalls.last s' before latest
        rw [same] at same'
        rcases s' with ⟨x, y, visible, image⟩
        cases same'
        cases recalls.sound.names_unique names names'
        exact ⟨before, latest⟩
    | preset => cases nothing
    | number => cases nothing
    | bitmap => cases nothing
  · rintro ⟨before, latest⟩
    obtain ⟨key, same, names⟩ := recalls.last s before latest
    rw [update_of_names same names]

/-- A bitmap goes out in full, under a free number, exactly if it is not in use. -/
theorem Recalls.shape (recalls : Recalls past c) {info : CursorInfo}
    (told : (c.update s).1 = some info) {bitmap : CursorBitmap} (image : s.image = .bitmap bitmap) :
    ((∃ id, info.shape = .bitmap bitmap id ∧ ∀ bitmap', (bitmap', id) ∉ inUse past) ↔
      ∀ id, (bitmap, id) ∉ inUse past) ∧
    ∀ id, info.shape = .cached id ↔ (bitmap, id) ∈ inUse past := by
  have tells := recalls.sound.tells s
  generalize c.update s = after at tells told
  cases tells with
  | nothing => cases told
  | preset id image' => cases image.symm.trans image'
  | number bitmap' id image' found =>
      cases image.symm.trans image'
      cases told
      have used : (bitmap, id) ∈ inUse past := recalls.mem_inUse_iff_lookup.mpr found
      refine ⟨⟨?_, fun absent => absurd used (absent id)⟩, fun id' => ?_⟩
      · rintro ⟨_, full, _⟩
        cases full
      · rw [recalls.mem_inUse_iff_lookup, found, CursorShape.cached.injEq, Option.some.injEq]
  | bitmap bitmap' image' unknown =>
      cases image.symm.trans image'
      cases told
      have absent : ∀ id, (bitmap, id) ∉ inUse past := by
        intro id used
        cases unknown.symm.trans (recalls.mem_inUse_iff_lookup.mp used)
      have free : ∀ bitmap', (bitmap', c.next) ∉ inUse past :=
        fun other used => recalls.sound.next_free other (recalls.mem_inUse.mp used)
      exact ⟨⟨fun _ => absent, fun _ => ⟨c.next, rfl, free⟩⟩,
        fun id => ⟨nofun, fun used => absurd used (absent id)⟩⟩

/-- **A cursor is told of exactly if it has changed.** After any run, nothing is told of a cursor
exactly if the call before was an update with the very same cursor. Otherwise it is told where the
cursor is and whether it shows; a bitmap goes out in full, under a number that no bitmap in use has,
exactly if it is not in use itself, and by the number it went out with if it is. The bitmaps in use
are those that the memory holds. A memory that keeps digests tells the same, as long as the contents
that occur have digests of their own. -/
theorem told_if_changed (events : List CursorEvent) (s : CursorState) :
    let past := ({} : CursorCache).log events
    let cache := ({} : CursorCache).after events
    let told := (cache.update s).1
    let events' := events ++ [.snapshot s]
    (told = none ↔ ∃ before, past.getLast? = some (.updated s before)) ∧
    (∀ info, told = some info →
      info.x = s.x ∧ info.y = s.y ∧ info.visible = s.visible ∧
      (∀ id, s.image = .preset id → info.shape = .preset id) ∧
      ∀ bitmap, s.image = .bitmap bitmap →
        ((∃ id, info.shape = .bitmap bitmap id ∧ ∀ bitmap', (bitmap', id) ∉ inUse past) ↔
          ∀ id, (bitmap, id) ∉ inUse past) ∧
        ∀ id, info.shape = .cached id ↔ (bitmap, id) ∈ inUse past) ∧
    cache.numbers = (inUse past).reverse ∧
    ∀ {κ : Type} [DecidableEq κ] (digest : Bytes → κ),
      DigestCache.TellsApart digest (events'.filterMap CursorEvent.bitmap?) →
      ({} : DigestCache κ).log digest events' = past ++ [.updated s told] := by
  have recalls := recalls_fresh.after events
  refine ⟨recalls.told_eq_none_iff, ?_, recalls.numbers, ?_⟩
  · intro info told
    obtain ⟨x, y, visible, preset⟩ := (recalls.sound.tells s).rest told
    exact ⟨x, y, visible, preset, fun bitmap image => recalls.shape told image⟩
  · intro κ _ digest apart
    rw [DigestCache.log_digested apart, log_concat]
    rfl

end CursorCache

end Screencast
