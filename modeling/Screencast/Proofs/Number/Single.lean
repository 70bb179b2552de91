import Screencast.Number.Single

/-! # Single-precision numbers within bounds

A number that is kept within bounds has the value in between that is closest to its own
(`Screencast.Single.value_clamp`); what is no number stays as it is.
-/

namespace Screencast.Single

variable {x low high : Single}

/-- What is no number stays as it is. -/
theorem clamp_of_isNaN (x low high : Single) (noNumber : x.isNaN = true) :
    x.clamp low high = x := by
  unfold clamp lt
  rw [noNumber]
  simp only [Bool.not_true, Bool.false_and, Bool.and_false, Bool.false_eq_true, ↓reduceIte]

/-- The value of a clamp is the clamp of the values. -/
theorem value_clamp (number : x.isNaN = false)
    (numbers : low.isNaN = false ∧ high.isNaN = false) (ordered : low.value ≤ high.value) :
    (x.clamp low high).isNaN = false ∧
      (x.clamp low high).value = Max.max low.value (Min.min x.value high.value) := by
  have below : x.lt low = decide (x.value < low.value) := by
    rw [lt, number, numbers.1]
    rfl
  have above : high.lt x = decide (high.value < x.value) := by
    rw [lt, number, numbers.2]
    rfl
  unfold clamp
  rw [below, above]
  split
  next less =>
    have less := of_decide_eq_true less
    exact ⟨numbers.1, by omega⟩
  next notLess =>
    have notLess := of_decide_eq_false (Bool.eq_false_iff.mpr notLess)
    split
    next more =>
      have more := of_decide_eq_true more
      exact ⟨numbers.2, by omega⟩
    next notMore =>
      have notMore := of_decide_eq_false (Bool.eq_false_iff.mpr notMore)
      exact ⟨number, by omega⟩

end Screencast.Single
