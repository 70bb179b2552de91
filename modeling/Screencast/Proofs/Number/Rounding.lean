import Mathlib.Algebra.Group.Nat.Defs
import Screencast.Number.Rounding

/-! # Rounding and order

A number short enough is held exactly, and rounding to nearest carries no number past one that is
(`Screencast.le_roundSignificant`, `Screencast.roundSignificant_le`). So what is known of an exact
product compared with such numbers is known of the rounded product as well.
-/

namespace Screencast

/-- A quotient is rounded up at most to the next number, and only if it is not whole. -/
theorem roundDiv_cases {n d : Nat} (positive : 0 < d) :
    roundDiv n d = n / d ∨ n % d ≠ 0 ∧ roundDiv n d = n / d + 1 := by
  by_cases up : d < 2 * (n % d) ∨ 2 * (n % d) = d ∧ n / d % 2 = 1
  · exact .inr ⟨by omega, if_pos up⟩
  · exact .inl (if_neg up)

/-- A whole number below the quotient is below what that is rounded to. -/
theorem le_roundDiv {q n d : Nat} (positive : 0 < d) (le : q * d ≤ n) : q ≤ roundDiv n d := by
  have whole : q ≤ n / d := (Nat.le_div_iff_mul_le positive).mpr le
  rcases roundDiv_cases (n := n) positive with rounded | ⟨-, rounded⟩
  · rw [rounded]
    exact whole
  · rw [rounded]
    exact Nat.le_succ_of_le whole

/-- A whole number above the quotient is above what that is rounded to. -/
theorem roundDiv_le {q n d : Nat} (positive : 0 < d) (le : n ≤ q * d) : roundDiv n d ≤ q := by
  rcases roundDiv_cases (n := n) positive with rounded | ⟨broken, rounded⟩
  · rw [rounded]
    exact Nat.div_le_of_le_mul (Nat.mul_comm q d ▸ le)
  · have less : n < q * d := by
      refine Nat.lt_of_le_of_ne le ?_
      rintro rfl
      exact broken (Nat.mul_mod_left q d)
    rw [rounded]
    exact (Nat.div_lt_iff_lt_mul positive).mpr less

/-- A number with at most `digits` significant binary digits. -/
def IsHeld (digits n : Nat) : Prop := ∃ k e, k < 2 ^ digits ∧ n = k * 2 ^ e

variable {digits m n : Nat}

/-- A number of at most so many binary digits is held as it is. -/
theorem IsHeld.of_lt (short : n < 2 ^ digits) : IsHeld digits n :=
  ⟨n, 0, short, by rw [Nat.pow_zero, Nat.mul_one]⟩

/-- Zeros at the end do not count. -/
theorem IsHeld.shift (held : IsHeld digits n) (e : Nat) : IsHeld digits (n * 2 ^ e) := by
  obtain ⟨k, e', short, rfl⟩ := held
  exact ⟨k, e' + e, short, by rw [Nat.pow_add, Nat.mul_assoc]⟩

/-- A number held exactly is a multiple of the last place of `n`, or below all numbers as long as
`n`. -/
theorem IsHeld.place (held : IsHeld digits m) (n : Nat) :
    let excess := Nat.log2 n + 1 - digits
    (∃ q, m = q * 2 ^ excess) ∨ 0 < excess ∧ m < 2 ^ Nat.log2 n := by
  intro excess
  obtain ⟨k, e, short, rfl⟩ := held
  by_cases fine : excess ≤ e
  · refine .inl ⟨k * 2 ^ (e - excess), ?_⟩
    rw [Nat.mul_assoc, ← Nat.pow_add, Nat.sub_add_cancel fine]
  · refine .inr ⟨Nat.zero_lt_of_lt (Nat.not_le.mp fine), ?_⟩
    calc k * 2 ^ e
        < 2 ^ digits * 2 ^ e := (Nat.mul_lt_mul_right (Nat.two_pow_pos e)).mpr short
      _ = 2 ^ (digits + e) := (Nat.pow_add ..).symm
      _ ≤ 2 ^ Nat.log2 n := Nat.pow_le_pow_right Nat.two_pos (by omega)

/-- Rounding in terms of the weight of the last place that is kept. -/
theorem roundSignificant_eq (digits n : Nat) :
    let place := 2 ^ (Nat.log2 n + 1 - digits)
    roundSignificant digits n = roundDiv n place * place := by
  intro place
  change roundDiv n (1 <<< _) <<< _ = _
  rw [Nat.one_shiftLeft, Nat.shiftLeft_eq]

/-- Rounding does not go below a number that is held exactly. -/
theorem le_roundSignificant (positive : 0 < digits) (held : IsHeld digits m) (le : m ≤ n) :
    m ≤ roundSignificant digits n := by
  rw [roundSignificant_eq]
  rcases held.place n with ⟨q, rfl⟩ | ⟨long, below⟩
  · exact Nat.mul_le_mul_right _ (le_roundDiv (Nat.two_pow_pos _) le)
  · have nonzero : n ≠ 0 := by
      rintro rfl
      rw [Nat.log2_zero] at long
      omega
    -- The greatest power of two up to `n` is a multiple of the last place.
    have top : 2 ^ (digits - 1) * 2 ^ (Nat.log2 n + 1 - digits) = 2 ^ Nat.log2 n := by
      rw [← Nat.pow_add]
      congr 1
      omega
    have rounded := le_roundDiv (Nat.two_pow_pos _) (top ▸ Nat.log2_self_le nonzero)
    calc m
        ≤ 2 ^ Nat.log2 n := Nat.le_of_lt below
      _ = 2 ^ (digits - 1) * 2 ^ (Nat.log2 n + 1 - digits) := top.symm
      _ ≤ _ := Nat.mul_le_mul_right _ rounded

/-- Rounding does not go above a number that is held exactly. -/
theorem roundSignificant_le (positive : 0 < digits) (held : IsHeld digits m) (le : n ≤ m) :
    roundSignificant digits n ≤ m := by
  rw [roundSignificant_eq]
  rcases held.place n with ⟨q, rfl⟩ | ⟨long, below⟩
  · exact Nat.mul_le_mul_right _ (roundDiv_le (Nat.two_pow_pos _) le)
  · have nonzero : n ≠ 0 := by
      rintro rfl
      rw [Nat.log2_zero] at long
      omega
    exact absurd (Nat.le_trans (Nat.log2_self_le nonzero) le) (Nat.not_le.mpr below)

/-- What is held exactly is not changed by rounding. -/
theorem roundSignificant_of_held (positive : 0 < digits) (held : IsHeld digits n) :
    roundSignificant digits n = n :=
  Nat.le_antisymm (roundSignificant_le positive held (Nat.le_refl n))
    (le_roundSignificant positive held (Nat.le_refl n))

end Screencast
