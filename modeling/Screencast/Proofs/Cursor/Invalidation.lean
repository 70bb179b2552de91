import Screencast.Proofs.Cursor.Digests
import Screencast.Proofs.Cursor.Update

/-! # Invalidating the host's memory alone

A client that keeps its memory hears of every cursor from a host whose memory is invalidated from
time to time. The client's memory then starts over whenever a bitmap comes in whose number is a
multiple of 256, the host's after 256 bitmaps since it was invalidated. So a number that the host
still uses may be gone: a message that names a bitmap resolves exactly when the bitmap's number and
the number given last lie in the same block of 256, and all other messages resolve
(`Screencast.CursorLink.resolved_iff_same_block`).
-/

namespace Screencast

/-- A cursor that was told of: how it stood, the message, and what the client made of it. -/
structure CursorReport where
  snapshot : CursorState
  info : CursorInfo
  resolved : Option CursorState
deriving DecidableEq, Repr

/-- What a client makes of all that a host's memory tells. -/
def CursorStore.reports (store : CursorStore) : List CursorRecord → List CursorReport
  | [] => []
  | .updated s (some info) :: records =>
    ⟨s, info, (store.resolve info).1⟩ :: (store.resolve info).2.reports records
  | _ :: records => store.reports records

/-- The memories of a host and of a client that hears of every cursor. -/
structure CursorLink where
  cache : CursorCache := {}
  store : CursorStore := {}
deriving DecidableEq, Repr

namespace CursorLink

/-- The host takes a snapshot or forgets; the client resolves what is told. -/
def step (l : CursorLink) : CursorEvent → List CursorReport × CursorLink
  | .invalidate => ([], { l with cache := l.cache.invalidate })
  | .snapshot s =>
    match l.cache.update s with
    | (none, cache) => ([], { l with cache })
    | (some info, cache) =>
      let (resolved, store) := l.store.resolve info
      ([⟨s, info, resolved⟩], ⟨cache, store⟩)

/-- What is told during a run. -/
def run (l : CursorLink) : List CursorEvent → List CursorReport
  | [] => []
  | e :: es => (l.step e).1 ++ (l.step e).2.run es

/-- The memories after a run. -/
def after (l : CursorLink) : List CursorEvent → CursorLink
  | [] => l
  | e :: es => (l.step e).2.after es

/-- The host's memory does not depend on what the client makes of it. -/
theorem cache_after (l : CursorLink) (events : List CursorEvent) :
    (l.after events).cache = l.cache.after events := by
  induction events generalizing l with
  | nil => rfl
  | cons e events ih =>
      have first : (l.step e).2.cache = (l.cache.step e).2 := by
        cases e with
        | invalidate => rfl
        | snapshot s =>
            simp only [step, CursorCache.step]
            rcases l.cache.update s with ⟨_ | info, cache⟩
            · rfl
            · rfl
      rw [after, ih, first]
      rfl

/-- What is told in a run is what the host's memory tells, and the client hears all of it. -/
theorem run_eq_reports (l : CursorLink) (events : List CursorEvent) :
    l.run events = l.store.reports (l.cache.log events) := by
  induction events generalizing l with
  | nil => rfl
  | cons e events ih =>
      rw [run, ih, CursorCache.log]
      cases e with
      | invalidate => rfl
      | snapshot s =>
          simp only [step, CursorCache.step]
          rcases l.cache.update s with ⟨_ | info, cache⟩
          · rfl
          · rfl

/-- The number given to the bitmap that was told in full last. -/
def lastNumber (reports : List CursorReport) : Option UInt32 :=
  (reports.filterMap fun r =>
    match r.info.shape with
    | .bitmap _ id => some id
    | _ => none).getLast?

/-- A message names a bitmap whose number lies in another block of 256 than the newest. -/
def NamesOtherBlock (newest : Option UInt32) : CursorShape → Prop
  | .cached id => ∃ n ∈ newest, id / 256 ≠ n / 256
  | .preset _ | .bitmap _ _ => False

/-- A message resolves to the cursor it tells of, or to nothing if its number is of another
block. -/
def Resolves (newest : Option UInt32) (r : CursorReport) : Prop :=
  (NamesOtherBlock newest r.info.shape → r.resolved = none) ∧
    (¬NamesOtherBlock newest r.info.shape → r.resolved = some r.snapshot)

/-- How many of `n` bitmaps lie in the block of the newest. -/
def inBlock (n : Nat) : Nat := if n = 0 then 0 else (n - 1) % 256 + 1

/-- A memory that is never cleared starts over with each block. -/
theorem heldAfter_inBlock (n : Nat) : heldAfter (inBlock n) = inBlock (n + 1) := by
  unfold heldAfter inBlock cursorCacheEntries
  by_cases zero : n = 0
  · subst zero
    rfl
  · rw [if_neg zero, if_neg (Nat.succ_ne_zero n)]
    by_cases full : 256 ≤ (n - 1) % 256 + 1
    · rw [if_pos full]
      omega
    · rw [if_neg full]
      omega

/-- Of the newest 256 bitmaps those of the newest block are told by their numbers. -/
theorem same_block_iff {n i : Nat} (inside : i < n) (recent : i < 256) :
    UInt32.ofNat (n - 1 - i) / 256 = UInt32.ofNat (n - 1) / 256 ↔ i < inBlock n := by
  have positive : n ≠ 0 := by omega
  rw [inBlock, if_neg positive, ← UInt32.toNat_inj]
  simp only [UInt32.toNat_div, UInt32.toNat_ofNat', UInt32.toNat_ofNat, Nat.reducePow,
    Nat.reduceMod]
  omega

/-- What the memories hold after a run, and which number it gave last. -/
structure Follows (l : CursorLink) (past : List CursorReport) (sent : List CursorBitmap)
    (k : Nat) : Prop where
  agree : CursorsAgree l.cache l.store sent k (inBlock sent.length)
  held : l.cache.LastHeld
  newest : lastNumber past = (numbered sent).head?.map Prod.snd

/-- Both sides begin empty. -/
theorem follows_fresh : Follows {} [] [] 0 where
  agree := .fresh
  held := by
    intro x y visible id last
    cases last
  newest := rfl

private theorem lastNumber_append (past : List CursorReport) (s : CursorState) (info : CursorInfo)
    (resolved : Option CursorState) :
    lastNumber (past ++ [⟨s, info, resolved⟩]) =
      match info.shape with
      | .bitmap _ id => some id
      | _ => lastNumber past := by
  unfold lastNumber
  rw [List.filterMap_append, List.getLast?_append]
  cases shape : info.shape <;>
    simp only [List.filterMap_cons, shape, List.filterMap_nil, List.getLast?_nil,
      List.getLast?_singleton, Option.some_or, Option.none_or]

/-- A number that the host uses resolves exactly if it is of the newest block. -/
theorem Follows.resolves_number {l : CursorLink} {past : List CursorReport}
    {sent : List CursorBitmap} {k : Nat} (follows : l.Follows past sent k) {s : CursorState}
    {bitmap : CursorBitmap} {id : UInt32} (image : s.image = .bitmap bitmap)
    (found : l.cache.numbers.lookup bitmap = some id) :
    Resolves (lastNumber past) ⟨s, ⟨s.x, s.y, s.visible, .cached id⟩,
      (l.store.resolve ⟨s.x, s.y, s.visible, .cached id⟩).1⟩ := by
  obtain ⟨i, early, entry⟩ := follows.agree.known found
  obtain ⟨inside, number⟩ := getElem?_numbered entry
  have small : k ≤ 256 := follows.agree.cacheSize.2
  have newest : lastNumber past = some (UInt32.ofNat (sent.length - 1)) := by
    rw [follows.newest]
    cases sent with
    | nil => exact absurd inside (Nat.not_lt_zero i)
    | cons newest older => rfl
  -- The client still holds the bitmap if its place is among those sent since the last start-over,
  -- which is where blocks of 256 begin.
  have block := same_block_iff inside (by omega)
  rw [← number] at block
  have resolved : (l.store.resolve ⟨s.x, s.y, s.visible, .cached id⟩).1 =
      if i < inBlock sent.length then some s else none := by
    simp only [CursorStore.resolve, follows.agree.find? early entry]
    by_cases kept : i < inBlock sent.length
    · simp only [kept, ↓reduceIte, Option.map_some, ← image]
    · simp only [kept, ↓reduceIte, Option.map_none]
  constructor
  · rintro ⟨n, member, apart⟩
    rw [newest, Option.mem_some_iff] at member
    subst member
    change (l.store.resolve _).1 = none
    rw [resolved, if_neg (fun kept => apart (block.mpr kept))]
  · intro same
    change (l.store.resolve _).1 = some s
    have together : id / 256 = UInt32.ofNat (sent.length - 1) / 256 :=
      Decidable.byContradiction fun apart => same ⟨_, newest, apart⟩
    rw [resolved, if_pos (block.mp together)]

/-- One thing that happens keeps track of both memories, and what it tells resolves so. -/
theorem Follows.step {l : CursorLink} {past : List CursorReport} {sent : List CursorBitmap}
    {k : Nat} (follows : l.Follows past sent k) (e : CursorEvent) :
    (∃ sent' k', (l.step e).2.Follows (past ++ (l.step e).1) sent' k') ∧
      ((l.step e).1 = [] ∨ ∃ r, (l.step e).1 = [r] ∧ Resolves (lastNumber past) r) := by
  cases e with
  | invalidate =>
      refine ⟨⟨sent, 0, follows.agree.invalidate, .invalidate l.cache, ?_⟩, .inl rfl⟩
      exact (congrArg lastNumber (List.append_nil past)).trans follows.newest
  | snapshot s =>
      have tells := CursorCache.update_tells (follows.agree.next_unused follows.held) s
      rcases updated : l.cache.update s with ⟨told, cache⟩
      rw [updated] at tells
      have held := tells.lastHeld follows.held
      simp only [CursorLink.step, updated]
      cases tells with
      | nothing key same names =>
          refine ⟨⟨sent, k, follows.agree, held, ?_⟩, .inl rfl⟩
          rw [List.append_nil]
          exact follows.newest
      | preset id image =>
          refine ⟨⟨sent, k, follows.agree.told _, held, ?_⟩, .inr ⟨_, rfl, False.elim, ?_⟩⟩
          · rw [lastNumber_append]
            exact follows.newest
          · intro _
            simp only [CursorStore.resolve, ← image]
      | number bitmap id image found =>
          refine ⟨⟨sent, k, follows.agree.told _, held, ?_⟩,
            .inr ⟨_, rfl, follows.resolves_number image found⟩⟩
          rw [lastNumber_append]
          exact follows.newest
      | bitmap bitmap image unknown =>
          -- A bitmap the host does not know is numbered, and may start either memory over.
          have agree := (follows.agree.remember bitmap).told
            (some (s.x, s.y, s.visible, .numbered l.cache.next))
          rw [heldAfter_inBlock] at agree
          refine ⟨⟨bitmap :: sent, heldAfter k, agree, held, ?_⟩,
            .inr ⟨_, rfl, False.elim, ?_⟩⟩
          · rw [lastNumber_append]
            exact congrArg some follows.agree.next
          · intro _
            simp only [CursorStore.resolve, ← image]

private theorem resolves_from {l : CursorLink} {past : List CursorReport} {sent : List CursorBitmap}
    {k : Nat} (follows : l.Follows past sent k) {events : List CursorEvent}
    {earlier later : List CursorReport} {r : CursorReport}
    (split : l.run events = earlier ++ r :: later) : Resolves (lastNumber (past ++ earlier)) r := by
  induction events generalizing l past sent k earlier with
  | nil => simp only [run, List.nil_eq, List.append_eq_nil_iff, reduceCtorEq, and_false] at split
  | cons e events ih =>
      obtain ⟨⟨sent', k', follows'⟩, told⟩ := follows.step e
      simp only [run] at split
      rcases told with silent | ⟨first, single, resolves⟩
      · rw [silent, List.append_nil] at follows'
        rw [silent, List.nil_append] at split
        exact ih follows' split
      · rw [single, List.singleton_append] at split
        rw [single] at follows'
        cases earlier with
        | nil =>
            obtain ⟨rfl, _⟩ := List.cons.inj split
            rwa [List.append_nil]
        | cons head earlier =>
            obtain ⟨rfl, rest⟩ := List.cons.inj split
            have later := ih follows' rest
            rwa [List.append_assoc] at later

/-- **A bitmap named by its number resolves exactly when its number lies in the block of the
newest.** Whatever the host is shown and whenever its memory is invalidated, a message that names a
bitmap of another block of 256 numbers than the one given last resolves to nothing, and every other
message to the very cursor it was made from. A host whose memory keeps digests is in the same case:
as long as the contents that occur have digests of their own, its memory keeps the digests of these
bitmaps with their numbers, and the client makes the same of what it tells. -/
theorem resolved_iff_same_block {events : List CursorEvent} {earlier later : List CursorReport}
    {r : CursorReport} (split : run {} events = earlier ++ r :: later) :
    (NamesOtherBlock (lastNumber earlier) r.info.shape → r.resolved = none) ∧
      (¬NamesOtherBlock (lastNumber earlier) r.info.shape → r.resolved = some r.snapshot) ∧
      ∀ {κ : Type} [DecidableEq κ] (digest : Bytes → κ),
        let bitmaps := events.filterMap CursorEvent.bitmap?
        DigestCache.TellsApart digest bitmaps →
          CursorStore.reports {} (({} : DigestCache κ).log digest events) = run {} events ∧
          DigestCache.Digests digest bitmaps (after {} events).cache
            (({} : DigestCache κ).after digest events) := by
  obtain ⟨other, same⟩ := resolves_from follows_fresh split
  refine ⟨other, same, ?_⟩
  intro κ _ digest bitmaps apart
  rw [run_eq_reports, cache_after, DigestCache.log_digested apart]
  exact ⟨rfl, DigestCache.after_digested apart⟩

/-- A run goes on from where its first half ended. -/
theorem run_append (l : CursorLink) (first second : List CursorEvent) :
    l.run (first ++ second) = l.run first ++ (l.after first).run second := by
  induction first generalizing l with
  | nil => rfl
  | cons e first ih => simp only [List.cons_append, run, after, ih, List.append_assoc]

/-- A pointer of some width in the corner of the screen. -/
def pointer (width : UInt32) : CursorState := ⟨0, 0, true, .bitmap ⟨width, 1, 0, 0, []⟩⟩

/-- A pointer shown `n` times, each time with an invalidation after it. -/
def shownAnew (width : UInt32) (n : Nat) : List CursorEvent :=
  (List.replicate n [.snapshot (pointer width), .invalidate]).flatten

/-- Every time takes a number. -/
theorem cache_after_shownAnew (width : UInt32) {l : CursorLink} {first : Nat}
    (fresh : l.cache = { next := UInt32.ofNat first }) (n : Nat) :
    (l.after (shownAnew width n)).cache = { next := UInt32.ofNat (first + n) } := by
  induction n generalizing l first with
  | zero => exact fresh
  | succ n ih =>
      obtain ⟨cache, store⟩ := l
      obtain rfl : cache = _ := fresh
      rw [← Nat.add_assoc, Nat.add_right_comm]
      apply ih
      rw [UInt32.ofNat_add]
      rfl

/-- A pointer shown 256 times goes out under a new number each time; the next bitmap begins a block,
after which the first is named by a number of the block before. -/
theorem run_names_other_block :
    ∃ earlier r, run {} (shownAnew 1 255 ++
        [.snapshot (pointer 1), .snapshot (pointer 2), .snapshot (pointer 1)]) =
        earlier ++ r :: [] ∧
      r.snapshot = pointer 1 ∧ NamesOtherBlock (lastNumber earlier) r.info.shape := by
  have start : ({} : CursorLink).cache = { next := UInt32.ofNat 0 } := rfl
  have numbers := cache_after_shownAnew 1 start 255
  rw [run_append]
  generalize run {} (shownAnew 1 255) = before
  generalize after {} (shownAnew 1 255) = l at numbers ⊢
  obtain ⟨cache, store⟩ := l
  obtain rfl : cache = { next := 255 } := numbers
  have told : ∃ a b c, run ⟨{ next := 255 }, store⟩
      [.snapshot (pointer 1), .snapshot (pointer 2), .snapshot (pointer 1)] =
        [⟨pointer 1, ⟨0, 0, true, .bitmap ⟨1, 1, 0, 0, []⟩ 255⟩, a⟩,
          ⟨pointer 2, ⟨0, 0, true, .bitmap ⟨2, 1, 0, 0, []⟩ 256⟩, b⟩,
          ⟨pointer 1, ⟨0, 0, true, .cached 255⟩, c⟩] := ⟨_, _, _, rfl⟩
  obtain ⟨a, b, c, told⟩ := told
  rw [told, List.append_cons, List.append_cons]
  refine ⟨_, _, rfl, rfl, 256, ?_, by decide⟩
  rw [lastNumber_append]
  rfl

/-- The pointer is not known to the client any more, although it keeps all it is told. -/
theorem unresolved_after_shownAnew :
    ∃ earlier r, run {} (shownAnew 1 255 ++
        [.snapshot (pointer 1), .snapshot (pointer 2), .snapshot (pointer 1)]) =
        earlier ++ r :: [] ∧ r.snapshot = pointer 1 ∧ r.resolved = none := by
  obtain ⟨earlier, r, split, shown, other⟩ := run_names_other_block
  exact ⟨earlier, r, split, shown, (resolved_iff_same_block split).1 other⟩

/-- Not every cursor that is told of resolves. -/
theorem not_every_report_resolves :
    ¬∀ (events : List CursorEvent), ∀ r ∈ run {} events, r.resolved = some r.snapshot := by
  intro kept
  obtain ⟨earlier, r, split, _, other⟩ := run_names_other_block
  have resolved := kept _ r (by rw [split]; exact List.mem_append_right _ (List.mem_cons_self ..))
  rw [(resolves_from follows_fresh split).1 other] at resolved
  cases resolved

end CursorLink

end Screencast
