import Screencast.Proofs.Cursor.Invalidation

/-! # Two memories that start over together

When the client is built anew at the moment at which the host's memory is invalidated, the two
memories never drift apart: a number means the same bitmap to both, whatever has been forgotten
meanwhile and however often the numbers have gone round. So whatever is told resolves, and nothing
is told only of a cursor that the client shows already
(`Screencast.CursorSession.memories_mirrored`).
-/

namespace Screencast

/-- The two memories, and the cursor that the client resolved last. -/
structure CursorSession extends CursorLink where
  shown : Option CursorState := none
deriving DecidableEq, Repr

namespace CursorSession

/-- What happens to the two memories. -/
inductive Event
  | snapshot (s : CursorState)
  /-- The host forgets, and a client with an empty memory takes the place of the old one. -/
  | resync
deriving DecidableEq, Repr

/-- What an event makes of the memories and of what the client shows. -/
def step (c : CursorSession) : Event → CursorSession
  | .snapshot s =>
    let (reports, link) := c.toCursorLink.step (.snapshot s)
    ⟨link, (reports.getLast?.bind CursorReport.resolved).or c.shown⟩
  | .resync => ⟨⟨c.cache.invalidate, {}⟩, c.shown⟩

/-- The memories after some events. -/
def after (c : CursorSession) : List Event → CursorSession
  | [] => c
  | e :: es => (c.step e).after es

/-- What an event is to the host's memory. -/
def Event.forHost : Event → CursorEvent
  | .snapshot s => .snapshot s
  | .resync => .invalidate

/-- The host's memory does not depend on what becomes of the client. -/
theorem cache_after (c : CursorSession) (events : List Event) :
    (c.after events).cache = c.cache.after (events.map Event.forHost) := by
  induction events generalizing c with
  | nil => rfl
  | cons e events ih =>
      have first : (c.step e).cache = (c.cache.step e.forHost).2 := by
        cases e with
        | resync => rfl
        | snapshot s => exact c.toCursorLink.cache_after [.snapshot s]
      rw [after, ih, first]
      rfl

/-- Both memories hold the newest `k` bitmaps, each of them once, and what was told last is what the
client shows. -/
structure Mirrored (c : CursorSession) (sent : List CursorBitmap) (k : Nat) : Prop where
  agree : CursorsAgree c.cache c.store sent k k
  held : c.cache.LastHeld
  distinct : (c.cache.numbers.map Prod.fst).Nodup
  shown : ∀ x y visible key, c.cache.last = some (x, y, visible, key) →
    ∃ image, c.cache.Names key image ∧ c.shown = some ⟨x, y, visible, image⟩

/-- Two empty memories mirror each other. -/
theorem mirrored_fresh : Mirrored {} [] 0 where
  agree := .fresh
  held := CursorLink.follows_fresh.held
  distinct := List.nodup_nil
  shown := by
    intro x y visible key last
    cases last

variable {c : CursorSession} {sent : List CursorBitmap} {k : Nat}

/-- What the host knows by a number is what the client finds by it. -/
theorem Mirrored.find?_of_lookup (mirrored : c.Mirrored sent k) {bitmap : CursorBitmap}
    {id : UInt32} (found : c.cache.numbers.lookup bitmap = some id) :
    c.store.find? id = some bitmap := by
  obtain ⟨i, early, entry⟩ := mirrored.agree.known found
  rw [mirrored.agree.find? early entry, if_pos early]

/-- Each bitmap is listed once, so it is known by the number it is listed with. -/
theorem Mirrored.lookup_of_mem (mirrored : c.Mirrored sent k) {bitmap : CursorBitmap} {id : UInt32}
    (member : (bitmap, id) ∈ c.cache.numbers) : c.cache.numbers.lookup bitmap = some id := by
  obtain ⟨before, after, numbers⟩ := List.append_of_mem member
  refine List.lookup_eq_some_iff.mpr ⟨before, after, numbers, ?_⟩
  intro entry inside
  have distinct := mirrored.distinct
  rw [numbers, List.map_append, List.map_cons, List.nodup_append] at distinct
  have apart := distinct.2.2 entry.1 (List.mem_map_of_mem inside) bitmap (List.mem_cons_self ..)
  exact bne_iff_ne.mpr (Ne.symm apart)

/-- What the client finds by a number is what the host knows by it. -/
theorem Mirrored.lookup_of_find? (mirrored : c.Mirrored sent k) {bitmap : CursorBitmap}
    {id : UInt32} (found : c.store.find? id = some bitmap) :
    c.cache.numbers.lookup bitmap = some id := by
  rw [CursorStore.find?, mirrored.agree.bitmaps, ← mirrored.agree.numbers] at found
  obtain ⟨newer, older, split, _⟩ := List.lookup_eq_some_iff.mp found
  have listed : (id, bitmap) ∈ byNumber c.cache.numbers := by
    rw [split]
    exact List.mem_append_right newer (List.mem_cons_self ..)
  obtain ⟨entry, inside, swapped⟩ := List.mem_map.mp listed
  rw [← Prod.swap_swap entry, swapped] at inside
  exact mirrored.lookup_of_mem inside

/-- A key names one image only. -/
theorem Mirrored.names_unique (mirrored : c.Mirrored sent k) {key : ShapeKey}
    {image image' : CursorImage} (names : c.cache.Names key image)
    (names' : c.cache.Names key image') : image = image' := by
  cases names with
  | preset id =>
      cases names'
      rfl
  | numbered bitmap id found =>
      cases names' with
      | numbered bitmap' _ found' =>
          have same := mirrored.find?_of_lookup found
          rw [mirrored.find?_of_lookup found'] at same
          cases same
          rfl

/-- Both memories are emptied together. -/
theorem Mirrored.resync (mirrored : c.Mirrored sent k) : (c.step .resync).Mirrored sent 0 where
  agree := by
    have host := mirrored.agree.invalidate
    exact ⟨host.next, host.numbers, rfl, host.cacheSize, ⟨Nat.zero_le _, Nat.zero_le _⟩⟩
  held := .invalidate c.cache
  distinct := List.nodup_nil
  shown := by
    intro x y visible key last
    cases last

/-- What has just been told is what the client shows. -/
theorem mirrored_tell {cache : CursorCache} {store : CursorStore} {s : CursorState}
    {key : ShapeKey} (agree : CursorsAgree cache store sent k k)
    (held : (cache.tell s key).LastHeld) (distinct : (cache.numbers.map Prod.fst).Nodup)
    (names : cache.Names key s.image) :
    Mirrored ⟨⟨cache.tell s key, store⟩, some s⟩ sent k where
  agree := agree.told _
  held := held
  distinct := distinct
  shown := by
    intro x y visible key' last
    cases last
    refine ⟨s.image, ?_, rfl⟩
    generalize s.image = image at names ⊢
    cases names with
    | preset id => exact .preset id
    | numbered bitmap id found => exact .numbered bitmap id found

private theorem distinct_remember {cache : CursorCache} {bitmap : CursorBitmap}
    (distinct : (cache.numbers.map Prod.fst).Nodup)
    (unknown : cache.numbers.lookup bitmap = none) :
    ((cache.remember bitmap).numbers.map Prod.fst).Nodup := by
  have absent : bitmap ∉ cache.numbers.map Prod.fst := by
    intro listed
    obtain ⟨entry, member, rfl⟩ := List.mem_map.mp listed
    have apart := List.lookup_eq_none_iff.mp unknown entry member
    exact (bne_iff_ne.mp apart) rfl
  unfold CursorCache.remember
  by_cases full : cursorCacheEntries ≤ cache.size
  · simp only [full, ↓reduceIte, List.map_cons, List.map_nil, List.nodup_cons, List.not_mem_nil,
      not_false_eq_true, List.nodup_nil, and_self]
  · simp only [full, ↓reduceIte, List.map_cons, List.nodup_cons]
    exact ⟨absent, distinct⟩

/-- What the next snapshot leads to: memories that are alike again, and a client that shows it. -/
structure Shows (c : CursorSession) (s : CursorState) : Prop where
  mirrored : ∃ sent k, (c.step (.snapshot s)).Mirrored sent k
  resolves : ∀ r ∈ (c.toCursorLink.step (.snapshot s)).1, r.resolved = some s
  silent : (c.toCursorLink.step (.snapshot s)).1 = [] → c.shown = some s

/-- A message that resolves to the cursor makes the client show it. -/
theorem shows_of_resolved {s : CursorState} {info : CursorInfo} {cache : CursorCache}
    {store : CursorStore} (updated : c.cache.update s = (some info, cache))
    (resolved : c.store.resolve info = (some s, store))
    (mirrored : Mirrored ⟨⟨cache, store⟩, some s⟩ sent k) : c.Shows s := by
  have told : c.toCursorLink.step (.snapshot s) = ([⟨s, info, some s⟩], ⟨cache, store⟩) := by
    simp only [CursorLink.step, updated, resolved]
  have stepped : c.step (.snapshot s) = ⟨⟨cache, store⟩, some s⟩ := by
    simp only [step, told, List.getLast?_singleton, Option.bind_some, Option.some_or]
  refine ⟨⟨sent, k, stepped ▸ mirrored⟩, ?_, ?_⟩
  · intro r member
    rw [told] at member
    rw [List.mem_singleton.mp member]
  · intro silent
    rw [told] at silent
    cases silent

/-- Nothing is told of what the client shows already, and all that is told resolves. -/
theorem Mirrored.shows (mirrored : c.Mirrored sent k) (s : CursorState) : c.Shows s := by
  have tells := CursorCache.update_tells (mirrored.agree.next_unused mirrored.held) s
  rcases updated : c.cache.update s with ⟨told, cache⟩
  rw [updated] at tells
  have held := tells.lastHeld mirrored.held
  cases tells with
  | nothing key same names =>
      obtain ⟨image, names', shown⟩ := mirrored.shown _ _ _ _ same
      rw [mirrored.names_unique names' names] at shown
      have quiet : c.toCursorLink.step (.snapshot s) = ([], c.toCursorLink) := by
        simp only [CursorLink.step, updated]
      have stepped : c.step (.snapshot s) = c := by
        simp only [step, quiet, List.getLast?_nil, Option.bind_none, Option.none_or]
      refine ⟨⟨sent, k, stepped.symm ▸ mirrored⟩, ?_, fun _ => shown⟩
      rw [quiet]
      intro r member
      cases member
  | preset id image =>
      have resolved : c.store.resolve ⟨s.x, s.y, s.visible, .preset id⟩ = (some s, c.store) := by
        simp only [CursorStore.resolve, ← image]
      apply shows_of_resolved updated resolved
      exact mirrored_tell mirrored.agree held mirrored.distinct (image ▸ .preset id)
  | number bitmap id image found =>
      have resolved : c.store.resolve ⟨s.x, s.y, s.visible, .cached id⟩ = (some s, c.store) := by
        simp only [CursorStore.resolve, mirrored.find?_of_lookup found, Option.map_some, ← image]
      apply shows_of_resolved updated resolved
      exact mirrored_tell mirrored.agree held mirrored.distinct (image ▸ .numbered bitmap id found)
  | bitmap bitmap image unknown =>
      have resolved : c.store.resolve ⟨s.x, s.y, s.visible, .bitmap bitmap c.cache.next⟩ =
          (some s, c.store.insert c.cache.next bitmap) := by
        simp only [CursorStore.resolve, ← image]
      have names : (c.cache.remember bitmap).Names (.numbered c.cache.next) s.image :=
        image ▸ .numbered bitmap _ List.lookup_cons_self
      have distinct := distinct_remember mirrored.distinct unknown
      apply shows_of_resolved updated resolved
      exact mirrored_tell (mirrored.agree.remember bitmap) held distinct names

/-- The memories mirror each other after any events. -/
theorem Mirrored.after (mirrored : c.Mirrored sent k) (events : List Event) :
    ∃ sent' k', (c.after events).Mirrored sent' k' := by
  induction events generalizing c sent k with
  | nil => exact ⟨sent, k, mirrored⟩
  | cons e events ih =>
      cases e with
      | snapshot s =>
          obtain ⟨sent', k', next⟩ := (mirrored.shows s).mirrored
          exact ih next
      | resync => exact ih mirrored.resync

/-- **The two memories mirror each other.** After any run, a number means a bitmap to the client
exactly when the host knows the bitmap by it, and neither memory holds more than 256. The next
snapshot, if anything is told of it, resolves to itself, and otherwise is what the client resolved
last. A host's memory that keeps digests is mirrored just the same, as long as the contents that
occur have digests of their own: it keeps the digests of these bitmaps with their numbers, a digest
is known by a number exactly when the number means the bitmap to the client, and the next snapshot
is told alike. -/
theorem memories_mirrored (events : List Event) :
    let c := after {} events
    (∀ bitmap id, c.cache.numbers.lookup bitmap = some id ↔ c.store.find? id = some bitmap) ∧
    c.store.size = c.cache.size ∧ c.cache.size ≤ 256 ∧
    (∀ s, (∀ r ∈ (c.toCursorLink.step (.snapshot s)).1, r.resolved = some s) ∧
      ((c.toCursorLink.step (.snapshot s)).1 = [] → c.shown = some s)) ∧
    ∀ {κ : Type} [DecidableEq κ] (digest : Bytes → κ) (bitmaps : List CursorBitmap),
      DigestCache.TellsApart digest bitmaps →
      (∀ e ∈ events, ∀ bitmap, e.forHost.bitmap? = some bitmap → bitmap ∈ bitmaps) →
      let d := ({} : DigestCache κ).after digest (events.map Event.forHost)
      DigestCache.Digests digest bitmaps c.cache d ∧
      (∀ bitmap ∈ bitmaps, ∀ id,
        d.numbers.lookup (digest bitmap.content) = some id ↔ c.store.find? id = some bitmap) ∧
      ∀ s, (∀ bitmap, s.image = .bitmap bitmap → bitmap ∈ bitmaps) →
        (d.update digest s).1 = (c.cache.update s).1 := by
  obtain ⟨sent, k, mirrored⟩ := mirrored_fresh.after events
  refine ⟨?_, ?_, ?_, ?_, ?_⟩
  · intro bitmap id
    exact ⟨mirrored.find?_of_lookup, mirrored.lookup_of_find?⟩
  · rw [mirrored.agree.size_store, mirrored.agree.size_cache]
  · rw [mirrored.agree.size_cache]
    exact mirrored.agree.cacheSize.2
  · intro s
    have shows := mirrored.shows s
    exact ⟨shows.resolves, shows.silent⟩
  · intro κ _ digest bitmaps apart used d
    have occurring : ∀ e ∈ events.map Event.forHost, ∀ bitmap, e.bitmap? = some bitmap →
        bitmap ∈ bitmaps := by
      intro e member
      obtain ⟨e, inside, rfl⟩ := List.mem_map.mp member
      exact used e inside
    have digests : DigestCache.Digests digest bitmaps (CursorSession.after {} events).cache d := by
      rw [cache_after]
      exact (DigestCache.digests_fresh.run apart occurring).2
    -- Digests that tell the bitmaps apart carry every lookup over.
    refine ⟨digests, fun bitmap known id => ?_, fun s known => (digests.update apart known).1⟩
    rw [digests.numbers, DigestCache.lookup_digested apart known digests.known]
    exact ⟨mirrored.find?_of_lookup, mirrored.lookup_of_find?⟩

end CursorSession

end Screencast
