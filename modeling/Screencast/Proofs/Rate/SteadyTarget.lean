import Mathlib.Data.Finset.Card
import Mathlib.Data.Finset.Image
import Mathlib.Data.Finset.Range
import Screencast.Proofs.History
import Screencast.Proofs.Rate.Starvation

/-! # A throttle whose target stays

As long as nobody changes the target, windows have one length and captures come in order, two things
are known of every decision: how many captures the throttle counts, namely those of the last second
(`Screencast.Throttle.observed_run`), and that a crowded capture which is encoded begins a new
window (`Screencast.Throttle.window_lt_of_crowded`). Of the captures of any second, those up to the
last one that was not crowded are few, since they were counted then, and the ones after it lie in
different windows (`Screencast.Throttle.encoded_within_rate`).
-/

namespace Screencast.Throttle

/-- Whether a time lies in the second that ends at `now`, its beginning left out. -/
def lastSecond (now time : Nat) : Bool := decide (now < time + second ∧ time ≤ now)

/-- Whether a time lies a second before `now` or more. -/
def isOld (now time : Nat) : Bool := decide (time + second ≤ now)

/-- The history is what the last capture left of the past. -/
def Remembers (t : Throttle) (past : List Nat) : Prop :=
  t.history = past.dropWhile (isOld (past.getLastD 0))

/-- The throttle aims at a target, with some hysteresis. -/
structure AimsAt (t : Throttle) (target hysteresis : Nat) : Prop where
  target : t.target = target
  hysteresis : t.hysteresis = hysteresis

variable {t : Throttle} {target hysteresis : Nat} {times : List Nat}

/-- What was old before is old now. -/
theorem isOld_of_le {before now : Nat} (ordered : before ≤ now) (time : Nat)
    (old : isOld before time = true) : isOld now time = true := by
  unfold isOld at old ⊢
  exact decide_eq_true (Nat.le_trans (of_decide_eq_true old) ordered)

/-- In order of time, dropping the old ones from the front leaves those of the last second. -/
theorem dropWhile_isOld_eq_filter {now : Nat} (ordered : times.Pairwise (· ≤ ·))
    (past : ∀ time ∈ times, time ≤ now) :
    times.dropWhile (isOld now) = times.filter (lastSecond now) := by
  have early : times.Pairwise fun x y => isOld now y = true → isOld now x = true := by
    refine ordered.imp fun {x y} before old => ?_
    unfold isOld at old ⊢
    simp only [decide_eq_true_eq] at old ⊢
    omega
  rw [History.dropWhile_eq_filter early]
  refine List.filter_congr fun time inside => ?_
  have bound := past time inside
  unfold isOld lastSecond
  rw [← decide_not]
  exact decide_eq_decide.mpr (by omega)

/-- The last one in order of time is the latest. -/
theorem le_getLastD (ordered : times.Pairwise (· ≤ ·)) :
    ∀ time ∈ times, time ≤ times.getLastD 0 := by
  cases times using List.reverseRecOn with
  | nil => exact fun _ among => nomatch among
  | append_singleton times last =>
      intro time inside
      rw [List.getLastD_concat]
      rcases List.mem_append.mp inside with early | same
      · exact (List.pairwise_append.mp ordered).2.2 time early last (List.mem_singleton.mpr rfl)
      · exact Nat.le_of_eq (List.mem_singleton.mp same)

private theorem offer_history (t : Throttle) (time : Nat) :
    (t.offer time).2.history = (t.history ++ [time]).dropWhile (isOld time) := by
  simp only [offer]
  cases (t.remember time).accepts time <;> rfl

/-- One more frame keeps the throttle in step with the times offered. -/
theorem Remembers.offer {past : List Nat} {time : Nat} (remembers : t.Remembers past)
    (last : past.getLastD 0 ≤ time) : (t.offer time).2.Remembers (past ++ [time]) := by
  unfold Remembers at remembers ⊢
  rw [offer_history, remembers, History.dropWhile_append_dropWhile (isOld_of_le last),
    List.getLastD_concat]

/-- A frame does not change what the throttle aims at. -/
theorem AimsAt.offer (aims : t.AimsAt target hysteresis) (time : Nat) :
    (t.offer time).2.AimsAt target hysteresis := by
  have kept : (t.offer time).2.target = t.target ∧ (t.offer time).2.hysteresis = t.hysteresis := by
    simp only [Throttle.offer]
    cases (t.remember time).accepts time <;> exact ⟨rfl, rfl⟩
  exact ⟨kept.1.trans aims.target, kept.2.trans aims.hysteresis⟩

/-- Captures are offered at some times, and the target stays. -/
def offers (times : List Nat) : List Call := times.map .offer

private theorem run_offers_concat (t : Throttle) (past : List Nat) (time : Nat) :
    (t.run (offers (past ++ [time]))).2 = ((t.run (offers past)).2.offer time).2 := by
  induction past generalizing t with
  | nil => rfl
  | cons first past ih => exact ih (t.offer first).2

private theorem run_offers_times (t : Throttle) (times : List Nat) :
    (t.run (offers times)).1.map Decision.time = times := by
  rw [run_times]
  unfold offers offerTimes
  rw [List.filterMap_map]
  exact List.filterMap_some

/-- A run of frames does not change what the throttle aims at. -/
theorem AimsAt.run (aims : t.AimsAt target hysteresis) (times : List Nat) :
    (t.run (offers times)).2.AimsAt target hysteresis := by
  induction times generalizing t with
  | nil => exact aims
  | cons time times ih => exact ih (aims.offer time)

/-- The throttle stays in step over every sorted list of times. -/
theorem Remembers.run {past : List Nat} (remembers : t.Remembers past)
    (ordered : (past ++ times).Pairwise (· ≤ ·)) :
    (t.run (offers times)).2.Remembers (past ++ times) := by
  induction times generalizing t past with
  | nil =>
      rw [List.append_nil]
      exact remembers
  | cons time times ih =>
      have last : past.getLastD 0 ≤ time := by
        cases past using List.reverseRecOn with
        | nil => exact Nat.zero_le time
        | append_singleton past last =>
            rw [List.getLastD_concat]
            exact (List.pairwise_append.mp ordered).2.2 last
              (List.mem_append_right past (List.mem_singleton.mpr rfl)) time List.mem_cons_self
      rw [List.append_cons] at ordered ⊢
      exact ih (remembers.offer last) ordered

/-- Each decision is that of the throttle as it stands after the captures before. -/
theorem decision_of_split {earlier later : List Decision} {d : Decision}
    (split : (t.run (offers times)).1 = earlier ++ d :: later) :
    d = (t.run (offers (earlier.map Decision.time))).2.decision d.time := by
  induction times generalizing t earlier with
  | nil => cases List.append_eq_nil_iff.mp split.symm with | intro _ impossible => cases impossible
  | cons time times ih =>
      cases earlier with
      | nil =>
          obtain ⟨rfl, -⟩ := List.cons.inj split
          rfl
      | cons first earlier =>
          obtain ⟨rfl, rest⟩ := List.cons.inj split
          have later := ih rest
          exact later

/-- A list has a last entry of some kind, or none at all. -/
theorem exists_last_of_kind {α : Type} (kind : α → Prop) [DecidablePred kind] (l : List α) :
    (∀ x ∈ l, ¬kind x) ∨
      ∃ front last back, l = front ++ last :: back ∧ kind last ∧ ∀ x ∈ back, ¬kind x := by
  cases found : l.reverse.find? fun x => kind x with
  | none =>
      refine .inl fun x inside fits => ?_
      have other := List.find?_eq_none.mp found x (List.mem_reverse.mpr inside)
      exact other (decide_eq_true fits)
  | some last =>
      obtain ⟨fits, back, front, split, others⟩ := List.find?_eq_some_iff_append.mp found
      refine .inr ⟨front.reverse, last, back.reverse, ?_, of_decide_eq_true fits, ?_⟩
      · rw [← List.reverse_reverse l, split, List.reverse_append, List.reverse_cons,
          List.append_assoc, List.singleton_append]
      · intro x inside fits
        have other := others x (List.mem_reverse.mp inside)
        rw [decide_eq_true fits] at other
        cases other

/-- What holds of each entry and the ones before it holds of any two. -/
theorem pairwise_of_split {α : Type} {R : α → α → Prop} {l : List α}
    (all : ∀ earlier d later, l = earlier ++ d :: later → ∀ e ∈ earlier, R e d) : l.Pairwise R := by
  induction l using List.reverseRecOn with
  | nil => exact .nil
  | append_singleton l last ih =>
      refine List.pairwise_append.mpr ⟨ih ?_, List.pairwise_singleton R last, ?_⟩
      · intro earlier d later split
        apply all earlier d (later ++ [last])
        rw [split, List.append_assoc, List.cons_append]
      · intro e inside d same
        rw [List.mem_singleton.mp same]
        exact all l last [] rfl e inside

/-- The length of a window at a target. -/
def width (target : Nat) : Nat := max (second / max target 1) 1

/-- A window is at least a microsecond wide. -/
theorem width_pos (target : Nat) : 0 < width target := Nat.le_max_right ..

private theorem aimsAt_new (target hysteresis : Nat) :
    (new target hysteresis).AimsAt (max target 1) hysteresis := ⟨rfl, rfl⟩

/-- The decisions on captures, with a target that stays from the beginning. -/
def decisions (target hysteresis : Nat) (times : List Nat) : List Decision :=
  ((new target hysteresis).run (offers times)).1

/-- One decision for each time offered. -/
theorem decisions_times (target hysteresis : Nat) (times : List Nat) :
    (decisions target hysteresis times).map Decision.time = times :=
  (new target hysteresis).run_offers_times times

section Decisions

variable {earlier later : List Decision} {d e : Decision}

/-- After a capture the throttle holds those of the last second. -/
theorem observed_run (ordered : (times.Pairwise (· ≤ ·)))
    (split : decisions target hysteresis times = earlier ++ d :: later) :
    ((new target hysteresis).run (offers ((earlier ++ [d]).map Decision.time))).2.observed =
      (earlier ++ [d]).countP fun e => lastSecond d.time e.time := by
  have sorted : ((earlier ++ [d]).map Decision.time).Pairwise (· ≤ ·) := by
    rw [← decisions_times target hysteresis times, split, List.append_cons,
      List.map_append] at ordered
    exact (List.pairwise_append.mp ordered).1
  have fresh : (new target hysteresis).Remembers [] := rfl
  have remembers : ((new target hysteresis).run _).2.Remembers _ := fresh.run sorted
  unfold Remembers at remembers
  have last : ((earlier ++ [d]).map Decision.time).getLastD 0 = d.time := by
    rw [List.map_append, List.map_singleton, List.getLastD_concat]
  have latest := le_getLastD sorted
  rw [last] at latest
  unfold observed
  rw [remembers, List.nil_append, last, dropWhile_isOld_eq_filter sorted latest,
    ← List.countP_eq_length_filter, List.countP_map]
  rfl

/-- A capture is crowded if it is one too many in the last second. -/
theorem crowded_iff (ordered : times.Pairwise (· ≤ ·))
    (split : decisions target hysteresis times = earlier ++ d :: later) :
    d.crowded ↔ max target 1 + hysteresis <
      (earlier ++ [d]).countP fun e => lastSecond d.time e.time := by
  have aims := (aimsAt_new target hysteresis).run (earlier.map Decision.time)
  have limit : ((new target hysteresis).run (offers (earlier.map Decision.time))).2.limit =
      max target 1 + hysteresis := congrArg₂ (· + ·) aims.target aims.hysteresis
  rw [← observed_run ordered split, List.map_append, List.map_singleton, run_offers_concat, ← limit]
  unfold observed
  rw [offer_history]
  have decided := congrArg Decision.crowded (decision_of_split split)
  rw [decided]
  exact decide_eq_true_iff

private theorem windowLength_of_split
    (split : decisions target hysteresis times = earlier ++ d :: later) :
    d.windowLength = width target := by
  have aims := (aimsAt_new target hysteresis).run (earlier.map Decision.time)
  rw [decision_of_split split]
  change max (second / _) 1 = _
  rw [aims.target]
  rfl

/-- A decision falls into the window of its time. -/
theorem window_of_mem (among : d ∈ decisions target hysteresis times) :
    d.window = d.time / width target := by
  obtain ⟨earlier, later, split⟩ := List.append_of_mem among
  rw [Decision.window, windowLength_of_split split]

private theorem sorted_run (target hysteresis : Nat) (ordered : times.Pairwise (· ≤ ·)) :
    (decisions target hysteresis times).Pairwise fun e d => e.time ≤ d.time := by
  rw [← decisions_times target hysteresis times] at ordered
  exact List.pairwise_map.mp ordered

private theorem window_mono (ordered : times.Pairwise (· ≤ ·))
    (split : decisions target hysteresis times = earlier ++ d :: later)
    (before : e ∈ earlier) : e.window ≤ d.window := by
  have sorted := sorted_run target hysteresis ordered
  rw [split] at sorted
  have order := (List.pairwise_append.mp sorted).2.2 e before d List.mem_cons_self
  have among : e ∈ decisions target hysteresis times :=
    split ▸ List.mem_append_left _ before
  rw [window_of_mem among, Decision.window, windowLength_of_split split]
  exact Nat.div_le_div_right order

/-- A crowded capture that is encoded lies in a later window than all that were encoded before. -/
theorem window_lt_of_crowded (ordered : times.Pairwise (· ≤ ·))
    (split : decisions target hysteresis times = earlier ++ d :: later)
    (before : e ∈ earlier) (first : e.encoded) (encoded : d.encoded) (crowded : d.crowded) :
    e.window < d.window := by
  have sorted : (earlier.map Decision.time).Pairwise (· ≤ ·) := by
    have all := sorted_run target hysteresis ordered
    rw [split] at all
    exact List.pairwise_map.mpr (List.pairwise_append.mp all).1
  cases last : lastEncoded earlier with
  | none =>
      have nothing := List.filter_eq_nil_iff.mp (List.getLast?_eq_none_iff.mp last) e before
      exact absurd first nothing
  | some l =>
      obtain ⟨⟨inside, -⟩, latest⟩ := lastEncoded_latest sorted last
      have among (x : Decision) (early : x ∈ earlier) :
          x ∈ decisions target hysteresis times :=
        split ▸ List.mem_append_left _ early
      have upTo : e.window ≤ l.window := by
        rw [window_of_mem (among e before), window_of_mem (among l inside)]
        exact Nat.div_le_div_right (latest e before first)
      have beyond : l.window < d.window := by
        by_contra reached
        have refused := (refused_iff split).mpr ⟨crowded, l, last, Nat.not_lt.mp reached⟩
        exact absurd encoded (ne_true_of_eq_false refused)
      exact Nat.lt_of_le_of_lt upTo beyond

/-- No window is starved: where a capture lies, one is encoded that came no later. -/
theorem served_of_split (ordered : times.Pairwise (· ≤ ·))
    (split : decisions target hysteresis times = earlier ++ d :: later) :
    ∃ e ∈ earlier ++ [d], e.encoded ∧ e.window = d.window := by
  cases encoded : d.encoded with
  | true => exact ⟨d, List.mem_append_right earlier (List.mem_singleton.mpr rfl), encoded, rfl⟩
  | false =>
      obtain ⟨-, e, last, reached⟩ := (refused_iff split).mp encoded
      have inside := List.mem_filter.mp (List.mem_of_getLast? last)
      exact ⟨e, List.mem_append_left [d] inside.1, inside.2,
        Nat.le_antisymm (window_mono ordered split inside.1) reached⟩

/-- Captures in different windows are no more than the windows. -/
theorem length_le_card {decisions : List Decision} {windows : Finset Nat}
    (increasing : decisions.Pairwise fun e d => e.window < d.window)
    (inside : ∀ d ∈ decisions, d.window ∈ windows) : decisions.length ≤ windows.card := by
  have distinct : (decisions.map Decision.window).Nodup :=
    List.pairwise_map.mpr (increasing.imp Nat.ne_of_lt)
  rw [← List.length_map Decision.window, ← List.toFinset_card_of_nodup distinct]
  apply Finset.card_le_card
  intro window counted
  obtain ⟨d, among, rfl⟩ := List.mem_map.mp (List.mem_toFinset.mp counted)
  exact inside d among

/-- Where all captures of some kind are crowded and encoded, they lie in different windows. -/
theorem countP_crowded_le (ordered : times.Pairwise (· ≤ ·)) {front back : List Decision}
    (split : decisions target hysteresis times = front ++ back) {p : Decision → Bool}
    (crowded : ∀ d ∈ back, p d → d.encoded ∧ d.crowded) {windows : Finset Nat}
    (inside : ∀ d ∈ back, p d → d.window ∈ windows) : back.countP p ≤ windows.card := by
  have increasing : (decisions target hysteresis times).Pairwise fun e d =>
      e.encoded → d.encoded → d.crowded → e.window < d.window :=
    pairwise_of_split fun earlier d later split e before =>
      window_lt_of_crowded ordered split before
  rw [split] at increasing
  have chosen := (List.pairwise_append.mp increasing).2.1.filter p
  have among (d : Decision) (kept : d ∈ back.filter p) : d ∈ back ∧ p d := List.mem_filter.mp kept
  rw [List.countP_eq_length_filter]
  apply length_le_card
  · refine chosen.imp_of_mem ?_
    intro e d first then' later
    obtain ⟨encoded, late⟩ := crowded d (among d then').1 (among d then').2
    exact later (crowded e (among e first).1 (among e first).2).1 encoded late
  · intro d kept
    exact inside d (among d kept).1 (among d kept).2

end Decisions

/-- Whether a time lies in the second after a moment. The moment may lie before time zero. -/
def InSecondAfter (moment : Int) (time : Nat) : Prop :=
  moment < time ∧ (time : Int) ≤ moment + second

instance (moment : Int) (time : Nat) : Decidable (InSecondAfter moment time) :=
  inferInstanceAs (Decidable (_ ∧ _))

/-- The windows that the second after a moment touches. -/
def windowsAfter (target : Nat) (moment : Int) : Finset Nat :=
  ((Finset.range (moment + second + 1).toNat).filter (InSecondAfter moment)).image
    (· / width target)

private theorem mem_windowsAfter {target time : Nat} {moment : Int}
    (inside : InSecondAfter moment time) :
    time / width target ∈ windowsAfter target moment := by
  have bound : time < (moment + second + 1).toNat := by
    unfold InSecondAfter at inside
    omega
  exact Finset.mem_image_of_mem _ (Finset.mem_filter.mpr ⟨Finset.mem_range.mpr bound, inside⟩)

/-- Up to a capture that is not crowded, few captures of its second are encoded. -/
theorem countP_upTo_le (ordered : times.Pairwise (· ≤ ·)) {front back : List Decision}
    {last : Decision}
    (split : decisions target hysteresis times = front ++ last :: back)
    (single : ¬last.crowded) {p : Decision → Bool}
    (recent : ∀ d ∈ front ++ [last], p d → last.time < d.time + second) :
    (front ++ [last]).countP p ≤ max target 1 + hysteresis := by
  have sorted := sorted_run target hysteresis ordered
  rw [split, List.append_cons] at sorted
  have upTo : ∀ d ∈ front ++ [last], d.time ≤ last.time := by
    intro d inside
    rcases List.mem_append.mp inside with before | same
    · exact (List.pairwise_append.mp (List.pairwise_append.mp sorted).1).2.2 d before last
        (List.mem_singleton.mpr rfl)
    · exact Nat.le_of_eq (congrArg Decision.time (List.mem_singleton.mp same))
  have counted := mt (crowded_iff ordered split).mpr single
  refine Nat.le_trans (List.countP_mono_left ?_) (Nat.not_lt.mp counted)
  intro d inside chosen
  exact decide_eq_true ⟨recent d inside chosen, upTo d inside⟩

/-- The captures encoded in a second: up to the last one that was not crowded they were within the
limit when it came, and the later ones lie in different windows. -/
theorem countP_second_le (ordered : times.Pairwise (· ≤ ·)) (moment : Int) :
    ((decisions target hysteresis times).countP fun d =>
      d.encoded ∧ InSecondAfter moment d.time) ≤
        max target 1 + hysteresis + (windowsAfter target moment).card := by
  -- Behind the last single capture of the second, all are crowded.
  have distinct {front back : List Decision}
      (split : decisions target hysteresis times = front ++ back)
      (later : ∀ d ∈ back, ¬(¬d.crowded ∧ InSecondAfter moment d.time)) :
      (back.countP fun d => d.encoded ∧ InSecondAfter moment d.time) ≤
        (windowsAfter target moment).card := by
    apply countP_crowded_le ordered split
    · intro d inside chosen
      obtain ⟨encoded, within⟩ := of_decide_eq_true chosen
      exact ⟨encoded, by_contra fun single => later d inside ⟨single, within⟩⟩
    · intro d inside chosen
      rw [window_of_mem (split ▸ List.mem_append_right front inside)]
      exact mem_windowsAfter (of_decide_eq_true chosen).2
  rcases exists_last_of_kind (fun d : Decision => ¬d.crowded ∧ InSecondAfter moment d.time)
      (decisions target hysteresis times) with
    crowded | ⟨front, last, back, split, ⟨single, ⟨-, within⟩⟩, later⟩
  · exact Nat.le_trans (distinct (List.nil_append _).symm crowded) (Nat.le_add_left ..)
  · have upTo :=
      countP_upTo_le (p := fun d => d.encoded ∧ InSecondAfter moment d.time) ordered split
      single fun d _ chosen => by
        obtain ⟨-, after, -⟩ := of_decide_eq_true chosen
        omega
    have split' : decisions target hysteresis times = (front ++ [last]) ++ back := by
      rw [split, List.append_cons]
    rw [split', List.countP_append]
    exact Nat.add_le_add upTo (distinct split' later)

/-- **Few captures of any second are encoded.** After each capture the throttle holds exactly the
captures of the last second. As long as these are within the limit, the capture is encoded; beyond
it, an encoded capture lies in a later window than all that were encoded before. So of the captures
in the second after any moment, at most as many as the limit and the windows that it touches are
encoded. -/
theorem encoded_within_rate (target hysteresis : Nat) {times : List Nat}
    (ordered : times.Pairwise (· ≤ ·)) :
    (decisions target hysteresis times).map Decision.time = times ∧
    let limit := max target 1 + hysteresis
    (∀ earlier d later, decisions target hysteresis times = earlier ++ d :: later →
      let recent := (earlier ++ [d]).countP fun e => lastSecond d.time e.time
      ((new target hysteresis).run (offers ((earlier ++ [d]).map Decision.time))).2.observed =
        recent ∧
      (recent ≤ limit → d.encoded) ∧
      ∀ e ∈ earlier, e.encoded → d.encoded → limit < recent →
        e.time / width target < d.time / width target) ∧
    ∀ moment : Int,
      ((decisions target hysteresis times).countP fun d =>
        d.encoded ∧ InSecondAfter moment d.time) ≤ limit + (windowsAfter target moment).card := by
  refine ⟨decisions_times .., ?_⟩
  intro limit
  refine ⟨?_, countP_second_le ordered⟩
  intro earlier d later split recent
  refine ⟨observed_run ordered split, ?_, ?_⟩
  · intro few
    by_contra refused
    have crowded := ((refused_iff split).mp (Bool.eq_false_iff.mpr refused)).1
    exact Nat.not_lt.mpr few ((crowded_iff ordered split).mp crowded)
  · intro e before first encoded many
    have crowded := (crowded_iff ordered split).mpr many
    have increasing := window_lt_of_crowded ordered split before first encoded crowded
    have among : e ∈ decisions target hysteresis times := split ▸ List.mem_append_left _ before
    rwa [window_of_mem among, Decision.window, windowLength_of_split split] at increasing

/-- Four captures in a row and two stragglers. -/
def burst : List Nat := [0, 100000, 200000, 300000, 700000, 1200000]

/-- At two a second, the third and the fourth of them are left out. -/
theorem burst_encoded_within_rate :
    burst.Pairwise (· ≤ ·) ∧
      (decisions 2 0 burst).map Decision.encoded =
        [true, true, false, false, true, true] ∧
      ((new 2 0).run (offers (burst.take 5))).2.observed = 5 ∧
      3 ≤ 2 + (windowsAfter 2 (-1)).card := by
  have ordered : burst.Pairwise (· ≤ ·) := by decide
  obtain ⟨-, each, span⟩ := encoded_within_rate 2 0 ordered
  have split : decisions 2 0 burst =
      [⟨0, 500000, false, true⟩, ⟨100000, 500000, false, true⟩, ⟨200000, 500000, true, false⟩,
        ⟨300000, 500000, true, false⟩] ++ ⟨700000, 500000, true, true⟩ ::
          [⟨1200000, 500000, true, true⟩] := by decide
  have held := (each _ _ _ split).1
  have few := span (-1)
  have three : ((decisions 2 0 burst).countP fun d =>
      d.encoded ∧ InSecondAfter (-1) d.time) = 3 := by decide
  have limit : max 2 1 + 0 = 2 := rfl
  rw [three, limit] at few
  refine ⟨ordered, by decide, ?_, few⟩
  refine Eq.trans ?_ (held.trans ?_)
  · decide
  · decide

end Screencast.Throttle
