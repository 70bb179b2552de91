import Screencast.Lossless.Encoder

/-! # Visible pixels

What is to be seen of a picture in memory are the first bytes of each of its rows, four for every
pixel of its width; what pads a row and what follows the last row is not. Packing a picture keeps
exactly these bytes, row after row (`Screencast.CapturedFrame.shows_of_packed?`). Taking the
difference to another picture of the same length can be undone (`Screencast.xorBytes_cancel`).
-/

namespace Screencast

private theorem length_packRows {width stride : Nat} (narrow : width ≤ stride) :
    ∀ (height : Nat) (data : Bytes), stride * height ≤ data.length →
      (packRows width stride height data).length = width * height := by
  intro height
  induction height with
  | zero => intro data _; rfl
  | succ height ih =>
      intro data large
      rw [Nat.mul_succ] at large
      have rest : stride * height ≤ (data.drop stride).length := by
        rw [List.length_drop]
        omega
      rw [packRows, List.length_append, List.length_take, ih _ rest, Nat.mul_succ]
      omega

/-- A packed byte is that of its row and column. -/
theorem getElem?_packRows {width stride : Nat} (narrow : width ≤ stride) :
    ∀ (height : Nat) (data : Bytes), stride * height ≤ data.length →
      ∀ row column, row < height → column < width →
        (packRows width stride height data)[row * width + column]? =
          data[row * stride + column]? := by
  intro height
  induction height with
  | zero =>
      intro data _ row column below
      exact absurd below (Nat.not_lt_zero row)
  | succ height ih =>
      intro data large row column below inside
      rw [Nat.mul_succ] at large
      have first : (data.take width).length = width := by
        rw [List.length_take]
        omega
      rw [packRows]
      cases row with
      | zero =>
          rw [Nat.zero_mul, Nat.zero_mul, Nat.zero_add, List.getElem?_append_left (by omega),
            List.getElem?_take_of_lt inside]
      | succ row =>
          have rest : stride * height ≤ (data.drop stride).length := by
            rw [List.length_drop]
            omega
          have place : (row + 1) * width + column - width = row * width + column := by
            rw [Nat.succ_mul]
            omega
          have source : stride + (row * stride + column) = (row + 1) * stride + column := by
            rw [Nat.succ_mul]
            omega
          rw [List.getElem?_append_right (by rw [first, Nat.succ_mul]; omega), first, place,
            ih _ rest row column (Nat.lt_of_succ_lt_succ below) inside, List.getElem?_drop, source]

/-- A packed picture holds the visible pixels of a captured one and nothing else. -/
def CapturedFrame.Shows (f : CapturedFrame) (picture : Bytes) : Prop :=
  ∃ stride data, f.pixels = .memory stride data ∧
    picture.length = PixelFormat.bgra8.frameLength f.width f.height ∧
    ∀ row column, row < f.height.toNat → column < f.width.toNat * 4 →
      ∃ byte, data[row * stride.toNat + column]? = some byte ∧
        picture[row * (f.width.toNat * 4) + column]? = some byte

/-- Packing keeps the visible pixels. -/
theorem CapturedFrame.shows_of_packed? {f : CapturedFrame} {picture : Bytes}
    (packed : f.packed? = some picture) : f.Shows picture := by
  unfold CapturedFrame.packed? at packed
  cases pixels : f.pixels with
  | surface handle => simp only [pixels, reduceCtorEq] at packed
  | memory stride data =>
      simp only [pixels] at packed
      split at packed
      next => simp only [reduceCtorEq] at packed
      next large =>
        obtain ⟨narrow, large⟩ := not_or.mp large
        obtain rfl := Option.some.inj packed
        have length := length_packRows (Nat.not_lt.mp narrow) _ data (Nat.not_lt.mp large)
        refine ⟨stride, data, pixels, ?_, ?_⟩
        · rw [length]
          exact Nat.mul_right_comm ..
        · intro row column below inside
          have place : row * (f.width.toNat * 4) + column < f.width.toNat * 4 * f.height.toNat := by
            calc row * (f.width.toNat * 4) + column
                < row * (f.width.toNat * 4) + f.width.toNat * 4 := Nat.add_lt_add_left inside _
              _ = (row + 1) * (f.width.toNat * 4) := (Nat.succ_mul ..).symm
              _ ≤ f.height.toNat * (f.width.toNat * 4) := Nat.mul_le_mul_right _ below
              _ = f.width.toNat * 4 * f.height.toNat := Nat.mul_comm ..
          have kept := getElem?_packRows (Nat.not_lt.mp narrow) _ data (Nat.not_lt.mp large)
            row column below inside
          rw [← length] at place
          rw [List.getElem?_eq_getElem place] at kept ⊢
          exact ⟨_, kept.symm, rfl⟩

/-- The difference of two pictures of one size has that size. -/
theorem length_xorBytes {a b : Bytes} (same : a.length = b.length) :
    (xorBytes a b).length = b.length := by
  rw [xorBytes, List.length_zipWith, same, Nat.min_self]

/-- The difference to a picture, taken from that picture, is the picture it was taken of. -/
theorem xorBytes_cancel {a b : Bytes} (same : a.length = b.length) :
    xorBytes a (xorBytes a b) = b := by
  induction a generalizing b with
  | nil => exact (List.length_eq_zero_iff.mp same.symm).symm
  | cons x a ih =>
      cases b with
      | nil => exact absurd same (Nat.succ_ne_zero _)
      | cons y b =>
          have tail := ih (Nat.succ.inj same)
          have head : x ^^^ (x ^^^ y) = y := by
            rw [← UInt8.xor_assoc, UInt8.xor_self, UInt8.zero_xor]
          simp only [xorBytes] at tail
          simp only [xorBytes, List.zipWith_cons_cons, head, tail]

end Screencast
