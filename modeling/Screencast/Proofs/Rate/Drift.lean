import Mathlib.Order.Interval.Finset.Nat
import Mathlib.Tactic.Ring
import Screencast.Proofs.Rate.SteadyTarget

/-! # Drift

As long as all captures are crowded, each window gets one frame. Windows are told from the time
itself, so no frame's rounding is handed on to the next; but the length of a window is a whole
number of microseconds, rounded down, and if the target does not divide a million, there are more
windows to a second than the target says. Over a long span the surplus adds up, and in the end the
frames of the span exceed the target by more than the two at its ends
(`Screencast.Throttle.bounded_iff_windows_fit`).
-/

namespace Screencast.Throttle

/-- Whether a time lies in a span of whole seconds. -/
def InSpan (start seconds time : Nat) : Prop := start ≤ time ∧ time < start + seconds * second

instance (start seconds time : Nat) : Decidable (InSpan start seconds time) :=
  inferInstanceAs (Decidable (_ ∧ _))

/-- All captures of a span are crowded. -/
def CrowdedIn (target hysteresis : Nat) (times : List Nat) (start seconds : Nat) : Prop :=
  ∀ d ∈ decisions target hysteresis times, InSpan start seconds d.time → d.crowded

/-- The number of captures of a span that are encoded. -/
def encodedIn (target hysteresis : Nat) (times : List Nat) (start seconds : Nat) : Nat :=
  (decisions target hysteresis times).countP fun d =>
    d.encoded ∧ InSpan start seconds d.time

variable {target hysteresis : Nat} {times : List Nat} {start seconds : Nat}

/-- A span that reaches `length + 1` microseconds beyond its first touches so many windows. -/
theorem windows_of_span {width : Nat} (positive : 0 < width) (start length : Nat) :
    (start + length + 1) / width + 1 - start / width ≤ length / width + 2 := by
  have first := Nat.lt_mul_div_succ start positive
  have beyond := Nat.lt_mul_div_succ length positive
  have last : (start + length + 1) / width < start / width + length / width + 2 := by
    rw [Nat.div_lt_iff_lt_mul positive]
    calc start + length + 1 < width * (start / width + 1) + width * (length / width + 1) := by omega
      _ = (start / width + length / width + 2) * width := by ring
  rw [Nat.sub_le_iff_le_add]
  calc (start + length + 1) / width + 1 ≤ start / width + length / width + 2 := last
    _ = length / width + 2 + start / width := by ring

/-- In a crowded span each window that it touches gets one frame. -/
theorem encodedIn_le (ordered : times.Pairwise (· ≤ ·))
    (crowded : CrowdedIn target hysteresis times start seconds) :
    encodedIn target hysteresis times start seconds ≤
      (seconds * second - 2) / width target + 2 := by
  cases seconds with
  | zero =>
      have idle : encodedIn target hysteresis times start 0 = 0 := by
        refine List.countP_eq_zero.mpr fun d _ chosen => ?_
        obtain ⟨-, from', upTo⟩ := of_decide_eq_true chosen
        omega
      rw [idle]
      exact Nat.zero_le _
  | succ seconds =>
      have length : (seconds + 1) * second = (seconds + 1) * second - 2 + 2 := by
        unfold second
        omega
      have touched := windows_of_span (width_pos target) start ((seconds + 1) * second - 2)
      refine Nat.le_trans (countP_crowded_le ordered (List.nil_append _).symm ?_ ?_)
        (Nat.le_trans (Nat.le_of_eq (Nat.card_Icc _ _)) touched)
      · intro d among chosen
        obtain ⟨encoded, inside⟩ := of_decide_eq_true chosen
        exact ⟨encoded, crowded d among inside⟩
      · intro d among chosen
        obtain ⟨-, from', upTo⟩ := of_decide_eq_true chosen
        rw [window_of_mem among]
        exact Finset.mem_Icc.mpr ⟨Nat.div_le_div_right from', Nat.div_le_div_right (by omega)⟩

section Moments

/-- The end of the first two windows of some length, and the beginnings of the next ones. -/
def moments (length count : Nat) : List Nat :=
  (length - 1) :: (2 * length - 1) :: (List.range count).map fun k => (k + 2) * length

/-- Several captures at each of these moments. -/
def busy (length count copies : Nat) : List Nat :=
  (moments length count).flatMap (List.replicate copies)

variable {length count copies time : Nat}

private theorem mem_moments : time ∈ moments length count ↔
    time = length - 1 ∨ time = 2 * length - 1 ∨ ∃ k < count, (k + 2) * length = time := by
  unfold moments
  rw [List.mem_cons, List.mem_cons, List.mem_map]
  simp only [List.mem_range]

private theorem mem_busy (several : 0 < copies) :
    time ∈ busy length count copies ↔ time ∈ moments length count := by
  unfold busy
  rw [List.mem_flatMap]
  constructor
  · rintro ⟨moment, inside, same⟩
    rw [List.eq_of_mem_replicate same]
    exact inside
  · intro inside
    exact ⟨time, inside, List.mem_replicate.mpr ⟨Nat.ne_of_gt several, rfl⟩⟩

/-- From the second moment on they lie in a span. -/
theorem moments_cases (positive : 0 < length) (nonempty : 0 < count)
    (inside : time ∈ moments length count) :
    time = length - 1 ∨ 2 * length - 1 ≤ time ∧ time ≤ (count + 1) * length := by
  have bounds (k : Nat) (bound : k < count) :
      2 * length ≤ (k + 2) * length ∧ (k + 2) * length ≤ (count + 1) * length :=
    ⟨Nat.mul_le_mul_right length (by omega), Nat.mul_le_mul_right length (by omega)⟩
  rcases mem_moments.mp inside with rfl | rfl | ⟨k, bound, rfl⟩
  · exact .inl rfl
  · obtain ⟨least, most⟩ := bounds 0 nonempty
    exact .inr ⟨Nat.le_refl _, by omega⟩
  · obtain ⟨least, most⟩ := bounds k bound
    exact .inr ⟨by omega, most⟩

/-- From the second window on each has a moment. -/
theorem exists_moment (positive : 0 < length) {window : Nat} (from' : 1 ≤ window)
    (upTo : window ≤ count + 1) : ∃ time ∈ moments length count, time / length = window := by
  cases window with
  | zero => cases from'
  | succ window =>
      cases window with
      | zero =>
          refine ⟨2 * length - 1, mem_moments.mpr (.inr (.inl rfl)), ?_⟩
          exact Nat.div_eq_of_lt_le (by omega) (by omega)
      | succ k =>
          exact ⟨(k + 2) * length, mem_moments.mpr (.inr (.inr ⟨k, by omega, rfl⟩)),
            Nat.mul_div_cancel _ positive⟩

private theorem sorted_moments (positive : 0 < length) :
    (moments length count).Pairwise (· < ·) := by
  have later (k : Nat) : 2 * length ≤ (k + 2) * length := Nat.mul_le_mul_right length (by omega)
  refine List.pairwise_cons.mpr ⟨?_, List.pairwise_cons.mpr ⟨?_, ?_⟩⟩
  · intro time inside
    rcases List.mem_cons.mp inside with rfl | inside
    · omega
    · obtain ⟨k, -, rfl⟩ := List.mem_map.mp inside
      have bound := later k
      omega
  · intro time inside
    obtain ⟨k, -, rfl⟩ := List.mem_map.mp inside
    have bound := later k
    omega
  · exact List.pairwise_map.mpr (List.pairwise_lt_range.imp fun less =>
      Nat.mul_lt_mul_of_pos_right (by omega) positive)

private theorem sorted_busy (positive : 0 < length) :
    (busy length count copies).Pairwise (· ≤ ·) := by
  refine List.pairwise_flatMap.mpr ⟨?_, (sorted_moments positive).imp ?_⟩
  · intro time _
    exact List.pairwise_replicate.mpr (.inr (Nat.le_refl time))
  · intro first second less x inside y inside'
    rw [List.eq_of_mem_replicate inside, List.eq_of_mem_replicate inside']
    exact Nat.le_of_lt less

/-- From the second moment on, each comes less than a second after one before it. -/
theorem exists_before (positive : 0 < length) (short : length < second)
    (inside : time ∈ moments length count) (other : time ≠ length - 1) :
    ∃ before ∈ moments length count, before < time ∧ time < before + second := by
  rcases mem_moments.mp inside with rfl | rfl | ⟨k, bound, rfl⟩
  · exact absurd rfl other
  · exact ⟨length - 1, mem_moments.mpr (.inl rfl), by omega, by omega⟩
  · cases k with
    | zero => exact ⟨2 * length - 1, mem_moments.mpr (.inr (.inl rfl)), by omega, by omega⟩
    | succ k =>
        have next : (k + 1 + 2) * length = (k + 2) * length + length := by ring
        exact ⟨(k + 2) * length, mem_moments.mpr (.inr (.inr ⟨k, by omega, rfl⟩)), by omega,
          by omega⟩

private theorem copies_le_count (inside : time ∈ moments length count) :
    copies ≤ (busy length count copies).count time := by
  have among : (List.replicate copies time).Sublist (busy length count copies) := by
    unfold busy
    rw [List.flatMap_def]
    exact List.sublist_flatten_of_mem (List.mem_map_of_mem inside)
  calc copies = (List.replicate copies time).count time := List.count_replicate_self.symm
    _ ≤ _ := among.count_le time

end Moments

/-- As many copies as make the capture after them crowded, at each of these moments. -/
def rush (target hysteresis count : Nat) : List Nat :=
  busy (width target) count (max target 1 + hysteresis + 1)

section Rush

variable {count : Nat} {earlier later : List Decision} {d : Decision}

private theorem sorted_rush (target hysteresis count : Nat) :
    (rush target hysteresis count).Pairwise (· ≤ ·) := sorted_busy (width_pos target)

private theorem mem_rush (target hysteresis : Nat) {time : Nat} :
    time ∈ rush target hysteresis count ↔ time ∈ moments (width target) count :=
  mem_busy (Nat.succ_pos _)

private theorem time_mem_moments
    (among : d ∈ decisions target hysteresis (rush target hysteresis count)) :
    d.time ∈ moments (width target) count := by
  rw [← mem_rush target hysteresis,
    ← decisions_times target hysteresis (rush target hysteresis count)]
  exact List.mem_map_of_mem among

/-- All copies of an earlier moment have come before a capture. -/
theorem copies_le_earlier {before : Nat} (moment : before ∈ moments (width target) count)
    (split : decisions target hysteresis (rush target hysteresis count) = earlier ++ d :: later)
    (less : before < d.time) :
    max target 1 + hysteresis + 1 ≤ (earlier.map Decision.time).count before := by
  have ordered := sorted_rush target hysteresis count
  have copies : max target 1 + hysteresis + 1 ≤ (rush target hysteresis count).count before :=
    copies_le_count moment
  rw [← decisions_times target hysteresis (rush target hysteresis count), split, List.map_append,
    List.map_cons] at ordered copies
  have gone : (d.time :: later.map Decision.time).count before = 0 := by
    refine List.count_eq_zero.mpr fun again => ?_
    have after : d.time ≤ before := by
      rcases List.mem_cons.mp again with same | again
      · exact Nat.le_of_eq same.symm
      · exact (List.pairwise_cons.mp (List.pairwise_append.mp ordered).2.1).1 before again
    exact Nat.not_lt.mpr after less
  rwa [List.count_append, gone, Nat.add_zero] at copies

/-- The copies of the moment before make a capture crowded. -/
theorem crowded_rush (short : width target < second)
    (split : decisions target hysteresis (rush target hysteresis count) = earlier ++ d :: later)
    (other : d.time ≠ width target - 1) : d.crowded := by
  have ordered := sorted_rush target hysteresis count
  have inside := time_mem_moments (split ▸ List.mem_append_right earlier List.mem_cons_self)
  obtain ⟨before, moment, less, recent⟩ := exists_before (width_pos target) short inside other
  have copies := copies_le_earlier moment split less
  refine (crowded_iff ordered split).mpr (Nat.lt_of_lt_of_le (Nat.lt_of_succ_le copies) ?_)
  rw [List.countP_append]
  refine Nat.le_trans ?_ (Nat.le_add_right _ _)
  unfold List.count
  rw [List.countP_map]
  refine List.countP_mono_left fun e _ same => ?_
  have time : e.time = before := beq_iff_eq.mp same
  exact decide_eq_true ⟨by omega, by omega⟩

/-- Each window from the second on gets its frame, and does so in the span. -/
theorem served_rush (nonempty : 0 < count)
    (fits : (count + 1) * width target < 2 * width target - 1 + seconds * second) {window : Nat}
    (from' : 1 ≤ window) (upTo : window ≤ count + 1) :
    ∃ e ∈ decisions target hysteresis (rush target hysteresis count), e.encoded ∧
      InSpan (2 * width target - 1) seconds e.time ∧ e.window = window := by
  have positive := width_pos target
  obtain ⟨time, moment, rfl⟩ := exists_moment positive from' upTo
  rw [← mem_rush target hysteresis,
    ← decisions_times target hysteresis (rush target hysteresis count)] at moment
  obtain ⟨d, among, rfl⟩ := List.mem_map.mp moment
  obtain ⟨earlier, later, split⟩ := List.append_of_mem among
  obtain ⟨e, early, encoded, same⟩ := served_of_split (sorted_rush target hysteresis count) split
  have among' : e ∈ decisions target hysteresis (rush target hysteresis count) := by
    rw [split, List.append_cons]
    exact List.mem_append_left later early
  rw [window_of_mem among] at same
  refine ⟨e, among', encoded, ?_, same⟩
  rcases moments_cases positive nonempty (time_mem_moments among') with first | ⟨least, most⟩
  · rw [window_of_mem among', first, Nat.div_eq_of_lt (by omega)] at same
    omega
  · exact ⟨least, by omega⟩

private theorem lt_encodedIn_rush (target hysteresis : Nat) (nonempty : 0 < count)
    (fits : (count + 1) * width target < 2 * width target - 1 + seconds * second) :
    count < encodedIn target hysteresis (rush target hysteresis count) (2 * width target - 1)
      seconds := by
  have served : Finset.Icc 1 (count + 1) ⊆
      (((decisions target hysteresis (rush target hysteresis count)).filter fun d =>
        d.encoded ∧ InSpan (2 * width target - 1) seconds d.time).map
          Decision.window).toFinset := by
    intro window inside
    obtain ⟨from', upTo⟩ := Finset.mem_Icc.mp inside
    obtain ⟨e, among, encoded, within, same⟩ := served_rush nonempty fits from' upTo
    rw [List.mem_toFinset, List.mem_map]
    exact ⟨e, List.mem_filter.mpr ⟨among, decide_eq_true ⟨encoded, within⟩⟩, same⟩
  calc count < (Finset.Icc 1 (count + 1)).card := by
        rw [Nat.card_Icc]
        omega
    _ ≤ _ := Finset.card_le_card served
    _ ≤ _ := List.toFinset_card_le _
    _ = _ := by rw [List.length_map, ← List.countP_eq_length_filter]; rfl

/-- From the end of the second window on, every capture of a rush finds the throttle crowded. -/
theorem crowdedIn_rush (short : width target < second) (seconds : Nat) :
    CrowdedIn target hysteresis (rush target hysteresis count) (2 * width target - 1) seconds := by
  intro d among inside
  obtain ⟨earlier, later, split⟩ := List.append_of_mem among
  have positive := width_pos target
  have least := inside.1
  exact crowded_rush short split (by omega)

end Rush

/-- Only windows shorter than a second can be too many. -/
theorem width_lt_second
    (many : (max target 1 * seconds + 1) * width target + 2 ≤ seconds * second) :
    width target < second := by
  by_contra long
  have one : 1 ≤ max target 1 := Nat.le_max_right ..
  have all : (seconds + 1) * second ≤ (max target 1 * seconds + 1) * width target :=
    Nat.mul_le_mul (Nat.succ_le_succ (Nat.le_mul_of_pos_left seconds one)) (Nat.not_lt.mp long)
  rw [Nat.succ_mul] at all
  omega

/-- Windows of a target that divides a million take up the second. -/
theorem mul_width_of_dvd (exact' : max target 1 ∣ second) :
    max target 1 * width target = second := by
  have bounded : max target 1 ≤ second := Nat.le_of_dvd (by decide) exact'
  have one : 1 ≤ second / max target 1 := Nat.div_pos bounded (Nat.le_max_right ..)
  unfold width
  rw [Nat.max_eq_left one]
  exact Nat.mul_div_cancel' exact'

/-- The frames of a crowded span of some seconds are always so few. -/
def SpanBounded (target hysteresis seconds most : Nat) : Prop :=
  ∀ times start, times.Pairwise (· ≤ ·) → CrowdedIn target hysteresis times start seconds →
    encodedIn target hysteresis times start seconds ≤ most

/-- A span that touches no more windows than the target allows sees no more pictures encoded. -/
theorem bounded_of_windows_fit
    (fit : seconds * second < (max target 1 * seconds + 1) * width target + 2) :
    SpanBounded target hysteresis seconds (max target 1 * seconds + 2) := by
  intro times start ordered crowded
  refine Nat.le_trans (encodedIn_le ordered crowded) (Nat.add_le_add_right ?_ 2)
  have positive : 0 < (max target 1 * seconds + 1) * width target :=
    Nat.mul_pos (Nat.succ_pos _) (width_pos target)
  have less : seconds * second - 2 < (max target 1 * seconds + 1) * width target := by omega
  exact Nat.le_of_lt_succ ((Nat.div_lt_iff_lt_mul (width_pos target)).mpr less)

/-- When more windows fit into a span, a rush gets a picture into each of them. -/
theorem not_bounded_of_many
    (many : (max target 1 * seconds + 1) * width target + 2 ≤ seconds * second) :
    ¬SpanBounded target hysteresis seconds (max target 1 * seconds + 2) := by
  intro bounded
  have fits : (max target 1 * seconds + 2 + 1) * width target <
      2 * width target - 1 + seconds * second := by
    have split : (max target 1 * seconds + 2 + 1) * width target =
        (max target 1 * seconds + 1) * width target + 2 * width target := by ring
    have positive := width_pos target
    omega
  have short := width_lt_second many
  have more := lt_encodedIn_rush target hysteresis (Nat.succ_pos _) fits
  exact absurd more (Nat.not_lt.mpr (bounded _ _ (sorted_rush ..) (crowdedIn_rush short seconds)))

/-- Windows fill a span of any length if nothing was cut off them, or if they are the shortest. -/
theorem windows_fit (exact' : max target 1 ∣ second ∨ second ≤ max target 1) (seconds : Nat) :
    seconds * second < (max target 1 * seconds + 1) * width target + 2 := by
  have filled : second ≤ max target 1 * width target := by
    rcases exact' with divides | great
    · exact Nat.le_of_eq (mul_width_of_dvd divides).symm
    · exact Nat.le_trans great (Nat.le_mul_of_pos_right _ (width_pos target))
  calc seconds * second ≤ seconds * (max target 1 * width target) :=
        Nat.mul_le_mul_left seconds filled
    _ < seconds * (max target 1 * width target) + (width target + 2) :=
        Nat.lt_add_of_pos_right (Nat.succ_pos _)
    _ = (max target 1 * seconds + 1) * width target + 2 := by ring

/-- What was cut off the windows adds up to more than two of them. -/
theorem exists_too_many (cut : ¬max target 1 ∣ second) (small : max target 1 < second) :
    ∃ seconds, (max target 1 * seconds + 1) * width target + 2 ≤ seconds * second := by
  have rounded : max target 1 * width target < second := by
    have one : 1 ≤ second / max target 1 :=
      Nat.div_pos (Nat.le_of_lt small) (Nat.le_max_right ..)
    unfold width
    rw [Nat.max_eq_left one]
    exact Nat.lt_of_le_of_ne (Nat.mul_div_le ..) fun same => cut ⟨_, same.symm⟩
  refine ⟨width target + 2, ?_⟩
  calc (max target 1 * (width target + 2) + 1) * width target + 2
      = (width target + 2) * (max target 1 * width target + 1) := by ring
    _ ≤ (width target + 2) * second := Nat.mul_le_mul_left _ rounded

/-- **The frames of a crowded span drift away from the target.** They are at most as many as there
may be windows in the span. So they exceed what the target allows by no more than two frames if and
only if that many windows fill the span, and otherwise there are captures with which they exceed it.
They do so in some span, unless the target divides a million or is no less than that. -/
theorem bounded_iff_windows_fit (target hysteresis : Nat) :
    (∀ seconds,
      SpanBounded target hysteresis seconds ((seconds * second - 2) / width target + 2)) ∧
    (∀ seconds, SpanBounded target hysteresis seconds (max target 1 * seconds + 2) ↔
      seconds * second < (max target 1 * seconds + 1) * width target + 2) ∧
    ((∀ seconds, SpanBounded target hysteresis seconds (max target 1 * seconds + 2)) ↔
      max target 1 ∣ second ∨ second ≤ max target 1) := by
  refine ⟨fun seconds times start ordered crowded => encodedIn_le ordered crowded,
    fun seconds => ⟨fun bounded => ?_, bounded_of_windows_fit⟩, fun bounded => ?_,
    fun exact' seconds => bounded_of_windows_fit (windows_fit exact' seconds)⟩
  · by_contra many
    exact not_bounded_of_many (Nat.not_lt.mp many) bounded
  · by_contra drifts
    obtain ⟨cut, small⟩ := not_or.mp drifts
    obtain ⟨seconds, many⟩ := exists_too_many cut (Nat.not_le.mp small)
    exact not_bounded_of_many many (bounded seconds)

/-- At a target of 1640 a window lasts 609 microseconds, and a second may see 1643 frames. -/
theorem not_always_bounded :
    ¬∀ target hysteresis seconds : Nat, 1 ≤ target →
      SpanBounded target hysteresis seconds (target * seconds + 2) := by
  intro bounded
  have many : (max 1640 1 * 1 + 1) * width 1640 + 2 ≤ 1 * second := by decide
  exact not_bounded_of_many many (bounded 1640 0 1 (by decide))

end Screencast.Throttle
