import Mathlib.Algebra.Group.Nat.Defs
import Screencast.Cursor.Cache
import Screencast.Cursor.Store

/-! # What the two memories of cursor bitmaps hold

The bitmaps told in full since the host began, the newest first, determine both memories: the host
holds the newest so many of them by their numbers, and so does a client that heard of all of them
(`Screencast.CursorsAgree`). The counts may differ. The numbers are the places in that sequence,
modulo `2³²`; since neither memory is larger than 256, no number in use is given again.
-/

namespace Screencast

/-- Bitmaps told in full, the newest first, with the numbers they were given. -/
def numbered : List CursorBitmap → List (CursorBitmap × UInt32)
  | [] => []
  | bitmap :: older => (bitmap, UInt32.ofNat older.length) :: numbered older

/-- One number for each bitmap sent. -/
@[simp]
theorem length_numbered (sent : List CursorBitmap) : (numbered sent).length = sent.length := by
  induction sent with
  | nil => rfl
  | cons bitmap older ih => rw [numbered, List.length_cons, List.length_cons, ih]

/-- A bitmap's number counts the bitmaps before it. -/
theorem getElem?_numbered {sent : List CursorBitmap} {i : Nat} {bitmap : CursorBitmap}
    {id : UInt32} (entry : (numbered sent)[i]? = some (bitmap, id)) :
    i < sent.length ∧ id = UInt32.ofNat (sent.length - 1 - i) := by
  induction sent generalizing i with
  | nil => simp only [numbered, List.getElem?_nil, reduceCtorEq] at entry
  | cons newest older ih =>
      cases i with
      | zero =>
          rw [numbered, List.getElem?_cons_zero, Option.some.injEq, Prod.mk.injEq] at entry
          exact ⟨Nat.zero_lt_succ _, entry.2.symm⟩
      | succ i =>
          rw [numbered, List.getElem?_cons_succ] at entry
          obtain ⟨inside, number⟩ := ih entry
          refine ⟨Nat.succ_lt_succ inside, ?_⟩
          rw [number, List.length_cons]
          congr 1
          omega

/-- Numbers less than `2³²` bitmaps apart are different. -/
theorem ofNat_ne_of_lt {a b : Nat} (before : a < b) (close : b - a < 2 ^ 32) :
    UInt32.ofNat a ≠ UInt32.ofNat b := by
  intro same
  have equal := congrArg UInt32.toNat same
  simp only [UInt32.toNat_ofNat'] at equal
  omega

/-- The bitmaps by their numbers. -/
def byNumber (entries : List (CursorBitmap × UInt32)) : List (UInt32 × CursorBitmap) :=
  entries.map Prod.swap

/-- A bitmap is found by its number among the newest `m` if it is one of them. -/
theorem lookup_byNumber_take {sent : List CursorBitmap} {i m : Nat} {bitmap : CursorBitmap}
    {id : UInt32} (entry : (numbered sent)[i]? = some (bitmap, id)) (recent : i < 2 ^ 32) :
    (byNumber ((numbered sent).take m)).lookup id = if i < m then some bitmap else none := by
  induction sent generalizing i m with
  | nil => simp only [numbered, List.getElem?_nil, reduceCtorEq] at entry
  | cons newest older ih =>
      cases m with
      | zero => rfl
      | succ m =>
          have head : byNumber ((numbered (newest :: older)).take (m + 1)) =
              (UInt32.ofNat older.length, newest) :: byNumber ((numbered older).take m) := rfl
          rw [head]
          cases i with
          | zero =>
              rw [numbered, List.getElem?_cons_zero, Option.some.injEq, Prod.mk.injEq] at entry
              obtain ⟨rfl, rfl⟩ := entry
              simp only [List.lookup_cons_self, Nat.zero_lt_succ, ↓reduceIte]
          | succ i =>
              rw [numbered, List.getElem?_cons_succ] at entry
              obtain ⟨inside, number⟩ := getElem?_numbered entry
              have apart : (id == UInt32.ofNat older.length) = false := by
                rw [beq_eq_false_iff_ne, number]
                exact ofNat_ne_of_lt (by omega) (by omega)
              rw [List.lookup_cons, apart, ih entry (by omega)]
              simp only [Nat.add_lt_add_iff_right]

/-- The next number is not in use. -/
theorem lookup_byNumber_next {sent : List CursorBitmap} {m : Nat} (few : m < 2 ^ 32) :
    (byNumber ((numbered sent).take m)).lookup (UInt32.ofNat sent.length) = none := by
  rw [List.lookup_eq_none_iff]
  intro entry member
  obtain ⟨⟨bitmap, id⟩, taken, rfl⟩ := List.mem_map.mp member
  obtain ⟨i, place⟩ := List.mem_iff_getElem?.mp taken
  rw [List.getElem?_take] at place
  split at place
  next early =>
    obtain ⟨inside, number⟩ := getElem?_numbered place
    rw [bne_iff_ne, Prod.fst_swap, number]
    exact (ofNat_ne_of_lt (by omega) (by omega)).symm
  next => simp only [reduceCtorEq] at place

/-- What two memories hold of the bitmaps told in full: the host the newest `k` of them, the client
the newest `m`. -/
structure CursorsAgree (cache : CursorCache) (store : CursorStore) (sent : List CursorBitmap)
    (k m : Nat) : Prop where
  next : cache.next = UInt32.ofNat sent.length
  numbers : cache.numbers = (numbered sent).take k
  bitmaps : store.bitmaps = byNumber ((numbered sent).take m)
  cacheSize : k ≤ sent.length ∧ k ≤ cursorCacheEntries
  storeSize : m ≤ sent.length ∧ m ≤ cursorCacheEntries

/-- How many bitmaps a memory of `n` holds after one more: it starts over when it is full. -/
def heldAfter (n : Nat) : Nat := if cursorCacheEntries ≤ n then 1 else n + 1

private theorem heldAfter_le {n length : Nat} (held : n ≤ length ∧ n ≤ cursorCacheEntries) :
    heldAfter n ≤ length + 1 ∧ heldAfter n ≤ cursorCacheEntries := by
  have bound : cursorCacheEntries = 256 := rfl
  unfold heldAfter
  by_cases full : cursorCacheEntries ≤ n
  · rw [if_pos full]
    omega
  · rw [if_neg full]
    omega

namespace CursorsAgree

variable {cache : CursorCache} {store : CursorStore} {sent : List CursorBitmap} {k m : Nat}

/-- Both sides begin empty. -/
theorem fresh : CursorsAgree {} {} [] 0 0 where
  next := rfl
  numbers := rfl
  bitmaps := rfl
  cacheSize := ⟨Nat.le_refl 0, Nat.zero_le _⟩
  storeSize := ⟨Nat.le_refl 0, Nat.zero_le _⟩

/-- Forgetting empties the host's side only. -/
theorem invalidate (agree : CursorsAgree cache store sent k m) :
    CursorsAgree cache.invalidate store sent 0 m where
  next := agree.next
  numbers := rfl
  bitmaps := agree.bitmaps
  cacheSize := ⟨Nat.zero_le _, Nat.zero_le _⟩
  storeSize := agree.storeSize

/-- Telling the host's memory what was told last changes nothing here. -/
theorem told (agree : CursorsAgree cache store sent k m)
    (last : Option (Int32 × Int32 × Bool × ShapeKey)) :
    CursorsAgree { cache with last } store sent k m :=
  ⟨agree.next, agree.numbers, agree.bitmaps, agree.cacheSize, agree.storeSize⟩

/-- The host remembers as many bitmaps as were sent since its last start-over. -/
theorem size_cache (agree : CursorsAgree cache store sent k m) : cache.size = k := by
  rw [CursorCache.size, agree.numbers, List.length_take, length_numbered]
  exact Nat.min_eq_left agree.cacheSize.1

/-- The client remembers as many bitmaps as arrived since its last start-over. -/
theorem size_store (agree : CursorsAgree cache store sent k m) : store.size = m := by
  rw [CursorStore.size, agree.bitmaps, byNumber, List.length_map, List.length_take,
    length_numbered]
  exact Nat.min_eq_left agree.storeSize.1

/-- A bitmap the host knows by a number is one of the newest `k`. -/
theorem known (agree : CursorsAgree cache store sent k m) {bitmap : CursorBitmap} {id : UInt32}
    (found : cache.numbers.lookup bitmap = some id) :
    ∃ i, i < k ∧ (numbered sent)[i]? = some (bitmap, id) := by
  obtain ⟨before, after, split, _⟩ := List.lookup_eq_some_iff.mp found
  have member : (bitmap, id) ∈ (numbered sent).take k := by
    rw [← agree.numbers, split]
    exact List.mem_append_right before (List.mem_cons_self ..)
  obtain ⟨i, place⟩ := List.mem_iff_getElem?.mp member
  rw [List.getElem?_take] at place
  split at place
  next early => exact ⟨i, early, place⟩
  next => simp only [reduceCtorEq] at place

/-- A number the host uses means the same bitmap to the client, if the client still has it. -/
theorem find? (agree : CursorsAgree cache store sent k m) {i : Nat} {bitmap : CursorBitmap}
    {id : UInt32} (early : i < k) (entry : (numbered sent)[i]? = some (bitmap, id)) :
    store.find? id = if i < m then some bitmap else none := by
  have small : k ≤ 256 := agree.cacheSize.2
  rw [CursorStore.find?, agree.bitmaps]
  exact lookup_byNumber_take entry (by omega)

/-- Of a bitmap told in full both memories take note. -/
theorem remember (agree : CursorsAgree cache store sent k m) (bitmap : CursorBitmap) :
    CursorsAgree (cache.remember bitmap) (store.insert cache.next bitmap) (bitmap :: sent)
      (heldAfter k) (heldAfter m) where
  next := by
    change cache.next + 1 = _
    rw [agree.next, List.length_cons, UInt32.ofNat_add]
    rfl
  numbers := by
    simp only [CursorCache.remember, agree.size_cache, agree.next, agree.numbers, heldAfter]
    split <;> rfl
  bitmaps := by
    have small : m ≤ 256 := agree.storeSize.2
    have unused : store.find? cache.next = none := by
      rw [CursorStore.find?, agree.bitmaps, agree.next, lookup_byNumber_next (by omega)]
    simp only [CursorStore.insert, unused, Option.isSome_none, Bool.false_eq_true, ↓reduceIte,
      agree.size_store]
    rw [agree.next, agree.bitmaps, heldAfter]
    split <;> rfl
  cacheSize := heldAfter_le agree.cacheSize
  storeSize := heldAfter_le agree.storeSize

end CursorsAgree

end Screencast
