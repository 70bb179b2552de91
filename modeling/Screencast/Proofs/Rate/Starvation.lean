import Screencast.Proofs.Rate.ThrottleRun

/-! # When a throttle starves a window

A refused capture should leave its window with an encoded one. As long as windows do not grow, it
does. A lower target makes windows longer and their numbers smaller, but the remembered number was
counted in the shorter windows of before, and is compared as it is: captures are refused until
the numbers of the long windows have caught up, however many windows begin meanwhile
(`Screencast.Throttle.starved_iff_ahead`).
-/

namespace Screencast.Throttle

/-- A capture is starved if it is refused although none was encoded since its window began. -/
def Starved (earlier : List Decision) (d : Decision) : Prop :=
  d.encoded = false ∧ ∀ e ∈ earlier, e.encoded → e.time < d.windowStart

/-- Among captures in order of time the one encoded last is the latest encoded. -/
theorem lastEncoded_latest {decisions : List Decision} {e : Decision}
    (ordered : (decisions.map Decision.time).Pairwise (· ≤ ·))
    (last : lastEncoded decisions = some e) :
    (e ∈ decisions ∧ e.encoded) ∧ ∀ e' ∈ decisions, e'.encoded → e'.time ≤ e.time := by
  obtain ⟨before, kept⟩ := List.getLast?_eq_some_iff.mp last
  have member : ∀ e' : Decision, e' ∈ before ++ [e] ↔ e' ∈ decisions ∧ e'.encoded := by
    intro e'
    rw [← kept, List.mem_filter]
  refine ⟨(member e).mp (List.mem_append_right before (List.mem_singleton.mpr rfl)), ?_⟩
  intro e' inside encoded
  have sorted : (before ++ [e]).Pairwise fun first second => first.time ≤ second.time := by
    rw [← kept]
    exact (List.pairwise_map.mp ordered).filter _
  rcases List.mem_append.mp ((member e').mpr ⟨inside, encoded⟩) with old | same
  · exact (List.pairwise_append.mp sorted).2.2 e' old e (List.mem_singleton.mpr rfl)
  · exact Nat.le_of_eq (congrArg Decision.time (List.mem_singleton.mp same))

/-- A time lies before the window of a capture when it lies in a window of a smaller number. -/
theorem lt_windowStart_iff (d : Decision) (time : Nat) :
    time < d.windowStart ↔ time / d.windowLength < d.window := by
  unfold Decision.windowStart Decision.window
  rcases Nat.eq_zero_or_pos d.windowLength with zero | positive
  · simp only [zero, Nat.mul_zero, Nat.div_zero, Nat.not_lt_zero]
  · exact (Nat.div_lt_iff_lt_mul positive).symm

/-- **A capture is starved exactly when the throttle's memory is ahead of it.** Its second is
crowded, and the capture encoded last lies before its window, but not by the number it got in the
windows of its own time. So nothing is starved while windows are no longer than when the last
capture was encoded, that is, unless the target was lowered since. -/
theorem starved_iff_ahead {target hysteresis : Nat} {calls : List Call}
    (ordered : (offerTimes calls).Pairwise (· ≤ ·)) {earlier later : List Decision} {d : Decision}
    (split : ((new target hysteresis).run calls).1 = earlier ++ d :: later) :
    (Starved earlier d ↔
      d.crowded ∧ ∃ e, lastEncoded earlier = some e ∧
        e.time / d.windowLength < d.window ∧ d.window ≤ e.window) ∧
    ((∀ e, lastEncoded earlier = some e → d.windowLength ≤ e.windowLength) →
      ¬Starved earlier d) := by
  have sorted : (earlier.map Decision.time).Pairwise (· ≤ ·) := by
    rw [← run_times, split, List.map_append] at ordered
    exact (List.pairwise_append.mp ordered).1
  have starved : Starved earlier d ↔
      d.crowded ∧ ∃ e, lastEncoded earlier = some e ∧
        e.time / d.windowLength < d.window ∧ d.window ≤ e.window := by
    constructor
    · rintro ⟨refused, missed⟩
      obtain ⟨crowded, e, last, reached⟩ := (refused_iff split).mp refused
      obtain ⟨⟨inside, encoded⟩, _⟩ := lastEncoded_latest sorted last
      have before := (lt_windowStart_iff d e.time).mp (missed e inside encoded)
      exact ⟨crowded, e, last, before, reached⟩
    · rintro ⟨crowded, e, last, before, reached⟩
      refine ⟨(refused_iff split).mpr ⟨crowded, e, last, reached⟩, ?_⟩
      intro e' inside encoded
      have early := (lt_windowStart_iff d e.time).mpr before
      exact Nat.lt_of_le_of_lt ((lastEncoded_latest sorted last).2 e' inside encoded) early
  refine ⟨starved, ?_⟩
  intro kept hungry
  obtain ⟨_, e, last, before, reached⟩ := starved.mp hungry
  rcases Nat.eq_zero_or_pos d.windowLength with zero | positive
  · rw [Decision.window, zero, Nat.div_zero, Nat.div_zero] at before
    exact Nat.lt_irrefl 0 before
  · have shorter : e.window ≤ e.time / d.windowLength :=
      Nat.div_le_div_left (kept e last) positive
    exact absurd (Nat.lt_of_le_of_lt (Nat.le_trans reached shorter) before) (Nat.lt_irrefl _)

/-- Four captures a second, then one: the capture at 4 s begins a window and is refused, since
that at 3 s was in the twelfth quarter of a second. -/
theorem starved_after_lowering :
    Starved [⟨3000000, 250000, false, true⟩, ⟨3500000, 1000000, true, false⟩]
      ⟨4000000, 1000000, true, false⟩ := by
  have split : ((new 4 0).run
      [.offer 3000000, .setTarget 1, .offer 3500000, .offer 4000000]).1 =
        [⟨3000000, 250000, false, true⟩, ⟨3500000, 1000000, true, false⟩] ++
          (⟨4000000, 1000000, true, false⟩ : Decision) :: [] := by decide
  refine (starved_iff_ahead (by decide) split).1.mpr ⟨rfl, ⟨3000000, 250000, false, true⟩, ?_⟩
  exact ⟨rfl, by decide, by decide⟩

/-- Not every refused capture has an encoded one in its window. -/
theorem starves_some_window :
    ¬∀ (target hysteresis : Nat) (calls : List Call) (earlier later : List Decision)
      (d : Decision), (offerTimes calls).Pairwise (· ≤ ·) →
      ((new target hysteresis).run calls).1 = earlier ++ d :: later →
      d.encoded = false → ∃ e ∈ earlier, e.encoded ∧ d.windowStart ≤ e.time := by
  intro kept
  have served := kept 4 0 [.offer 3000000, .setTarget 1, .offer 3500000, .offer 4000000]
    [⟨3000000, 250000, false, true⟩, ⟨3500000, 1000000, true, false⟩] []
    ⟨4000000, 1000000, true, false⟩ (by decide) (by decide) rfl
  exact absurd served (by decide)

end Screencast.Throttle
