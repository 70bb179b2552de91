import Mathlib.Algebra.Group.Nat.Defs
import Screencast.Bytes

/-! # Numbers in bytes, and bytes split off the front

Writing a number in a given number of bytes and reading it back are inverse to each other: on the
numbers that fit (`Screencast.LittleEndian.read_write`) and on all byte strings of that length
(`Screencast.LittleEndian.write_read`).
-/

namespace Screencast

namespace LittleEndian

/-- A number takes the width it is written in. -/
@[simp]
theorem length_write (width n : Nat) : (write width n).length = width := by
  induction width generalizing n with
  | zero => rfl
  | succ width ih => rw [write, List.length_cons, ih]

/-- What is read stays below the bound of its width. -/
theorem read_lt (digits : Bytes) : read digits < 256 ^ digits.length := by
  induction digits with
  | nil => exact Nat.one_pos
  | cons digit rest ih =>
      have small : digit.toNat < 256 := digit.toNat_lt
      rw [read, List.length_cons, Nat.pow_succ]
      omega

/-- A number that fits its bytes is read as it was written. -/
theorem read_write {width n : Nat} (small : n < 256 ^ width) : read (write width n) = n := by
  induction width generalizing n with
  | zero =>
      have zero : n = 0 := by simpa using small
      exact zero.symm
  | succ width ih =>
      have high : n / 256 < 256 ^ width :=
        Nat.div_lt_of_lt_mul (by rwa [Nat.pow_succ, Nat.mul_comm] at small)
      rw [write, read, ih high, UInt8.toNat_ofNat']
      exact Nat.mod_add_div n 256

/-- Bytes are the only ones of their length that read as their number does. -/
theorem write_read (digits : Bytes) : write digits.length (read digits) = digits := by
  induction digits with
  | nil => rfl
  | cons digit rest ih =>
      have small : digit.toNat < 256 := digit.toNat_lt
      have low : UInt8.ofNat (digit.toNat + 256 * read rest) = digit := by
        apply UInt8.toNat_inj.mp
        rw [UInt8.toNat_ofNat']
        omega
      have high : (digit.toNat + 256 * read rest) / 256 = read rest := by omega
      rw [List.length_cons, read, write, low, high, ih]

end LittleEndian

/-- What is split off has the length asked for, and nothing is lost. -/
theorem splitBytes?_eq_some_iff {n : Nat} {input front rest : Bytes} :
    splitBytes? n input = some (front, rest) ↔ front.length = n ∧ input = front ++ rest := by
  unfold splitBytes?
  constructor
  · intro split
    by_cases enough : n ≤ input.length
    · rw [if_pos enough, Option.some.injEq, Prod.mk.injEq] at split
      obtain ⟨rfl, rfl⟩ := split
      exact ⟨List.length_take_of_le enough, (List.take_append_drop n input).symm⟩
    · simp only [if_neg enough, reduceCtorEq] at split
  · rintro ⟨rfl, rfl⟩
    simp only [List.length_append, Nat.le_add_right, ↓reduceIte, List.take_left, List.drop_left]

end Screencast
