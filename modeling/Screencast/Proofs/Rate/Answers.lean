import Screencast.Proofs.Rate.Bounds

/-! # Answers to requests and reports

Whatever is asked for and reported, and however a report moves the bitrate before any bounds, both
rates stay within their bounds, and the answers tell all there is to know of them: an answer is the
difference that an event made, so that all answers together, one after the other, lead from the
initial rates to the current ones (`Screencast.RateController.rates_follow_patches`).
-/

namespace Screencast

open Wire

/-- Something that may change the rates. -/
inductive RateEvent
  | request (r : RateRequest)
  | report (s : TransportStat)
deriving DecidableEq, Repr

/-- Bitrate and frame rate once a patch has been put on them. -/
def RatePatch.onto (rates : Nat × Nat) (p : RatePatch) : Nat × Nat :=
  (p.bitrate.getD rates.1, p.fps.getD rates.2)

namespace RateController

/-- The rate that is told of, if a rate goes from `old` to `new`. -/
def told (old new : Nat) : Option Nat := if new = old then none else some new

/-- What has to be told of the step from one controller to the next. -/
def difference (c c' : RateController) : Option RatePatch :=
  if c'.bitrate = c.bitrate ∧ c'.fps = c.fps then none
  else some ⟨told c.bitrate c'.bitrate, told c.fps c'.fps⟩

/-- The answer to an event. `scale` is what a report makes of the bitrate before any bounds. -/
def answer (scale : RateController → TransportStat → Nat) (c : RateController) :
    RateEvent → Option RatePatch × RateController
  | .request r => c.reconfigure r
  | .report s => if c.manual then (none, c) else c.setRates (some (c.bounded s (scale c s))) none

/-- With the products of the controller itself, the answer is the one of the controller. -/
theorem answer_scaled_report (c : RateController) (s : TransportStat) :
    c.answer scaled (.report s) = c.networkChanged s := rfl

variable (scale : RateController → TransportStat → Nat)

/-- The controller once events have been answered, one after the other. -/
def afterEvents (c : RateController) (events : List RateEvent) : RateController :=
  events.foldl (fun c e => (c.answer scale e).2) c

/-- The patches among the answers. -/
def patches (c : RateController) : List RateEvent → List RatePatch
  | [] => []
  | e :: events => (c.answer scale e).1.toList ++ (c.answer scale e).2.patches events

variable {scale} {c : RateController}

private theorem told_filter (old : Nat) (asked : Option Nat) :
    told old ((asked.filter (· != old)).getD old) = asked.filter (· != old) := by
  cases new : asked.filter (· != old) with
  | none => exact if_pos rfl
  | some n =>
      obtain ⟨-, other⟩ := Option.filter_eq_some_iff.mp new
      exact if_neg (bne_iff_ne.mp other)

private theorem told_eq_none_iff {old new : Nat} : told old new = none ↔ new = old := by
  unfold told
  split
  next same => exact iff_of_true rfl same
  next other => exact iff_of_false (Option.some_ne_none new) other

/-- The answer to rates that are set is the difference they make. -/
theorem setRates_fst (c : RateController) (bitrate fps : Option Nat) :
    (c.setRates bitrate fps).1 = c.difference (c.setRates bitrate fps).2 := by
  have bitrateTold : told c.bitrate (c.setRates bitrate fps).2.bitrate =
      bitrate.filter (· != c.bitrate) := told_filter ..
  have fpsTold : told c.fps (c.setRates bitrate fps).2.fps = fps.filter (· != c.fps) :=
    told_filter ..
  unfold difference
  simp only [← told_eq_none_iff, bitrateTold, fpsTold]
  simp only [setRates, RatePatch.isEmpty, Bool.and_eq_true, Option.isNone_iff_eq_none]

/-- Following a difference leads from the one controller to the other. -/
theorem foldl_difference (c c' : RateController) :
    (c.difference c').toList.foldl RatePatch.onto (c.bitrate, c.fps) = (c'.bitrate, c'.fps) := by
  have reaches (old new : Nat) : (told old new).getD old = new := by
    unfold told
    split
    next same => exact same.symm
    next => rfl
  unfold difference
  split
  next same =>
    rw [same.1, same.2]
    rfl
  next => exact Prod.ext (reaches _ _) (reaches _ _)

/-- An event is ignored, or answered like a request for rates. -/
theorem answer_cases (scale : RateController → TransportStat → Nat) (c : RateController)
    (e : RateEvent) :
    c.answer scale e = (none, c) ∨
      ∃ manual p, c.answer scale e = { c with manual }.requestRates p := by
  cases e with
  | request r =>
      by_cases obeys : c.Obeys r
      · obtain ⟨manual, obeyed⟩ := reconfigure_of_obeys obeys
        exact .inr ⟨manual, r.patch, obeyed⟩
      · exact .inl (reconfigure_of_not_obeys obeys)
  | report s =>
      cases manual : c.manual with
      | true => exact .inl (if_pos manual)
      | false =>
          refine .inr ⟨c.manual, ⟨some (if s.bandwidth = 0 then scale c s
            else Nat.min (scale c s) s.bandwidth.toNat), none⟩, ?_⟩
          exact if_neg (ne_true_of_eq_false manual)

/-- An answer is the difference that the event makes. -/
theorem answer_fst (scale : RateController → TransportStat → Nat) (c : RateController)
    (e : RateEvent) : (c.answer scale e).1 = c.difference (c.answer scale e).2 := by
  rcases c.answer_cases scale e with ignored | ⟨manual, p, requested⟩
  · rw [ignored]
    exact (if_pos ⟨rfl, rfl⟩).symm
  · rw [requested]
    exact setRates_fst { c with manual } _ _

/-- No event takes the rates out of their bounds. -/
theorem InBounds.answer (within : c.InBounds) (e : RateEvent) :
    (c.answer scale e).2.InBounds := by
  rcases c.answer_cases scale e with ignored | ⟨manual, p, requested⟩
  · rw [ignored]
    exact within
  · have switched : InBounds { c with manual } := { within with }
    rw [requested]
    exact switched.requestRates p

private theorem sameBounds_answer (c : RateController) (e : RateEvent) :
    c.SameBounds (c.answer scale e).2 := by
  rcases c.answer_cases scale e with ignored | ⟨manual, p, requested⟩
  · rw [ignored]
    exact ⟨rfl, rfl, rfl⟩
  · have same := sameBounds_requestRates { c with manual } p
    rw [requested]
    exact ⟨same.min, same.cap, same.maxFps⟩

/-- Nor do any number of them. -/
theorem InBounds.afterEvents (within : c.InBounds) (events : List RateEvent) :
    (c.afterEvents scale events).InBounds := by
  induction events generalizing c with
  | nil => exact within
  | cons e events ih => exact ih (within.answer e)

/-- The bounds are those that the controller was made with. -/
theorem sameBounds_afterEvents (c : RateController) (events : List RateEvent) :
    c.SameBounds (c.afterEvents scale events) := by
  induction events generalizing c with
  | nil => exact ⟨rfl, rfl, rfl⟩
  | cons e events ih => exact (c.sameBounds_answer e).trans (ih (c.answer scale e).2)

/-- The patches of a run lead from the rates before it to those after it. -/
theorem foldl_patches (c : RateController) (events : List RateEvent) :
    (c.patches scale events).foldl RatePatch.onto (c.bitrate, c.fps) =
      ((c.afterEvents scale events).bitrate, (c.afterEvents scale events).fps) := by
  induction events generalizing c with
  | nil => rfl
  | cons e events ih =>
      rw [patches, List.foldl_append, answer_fst, foldl_difference, ih]
      rfl

/-- A report that is heeded sets the bitrate that it suggests, within the bounds. -/
theorem bitrate_of_report (automatic : c.manual = false) (s : TransportStat) :
    (c.answer scale (.report s)).2.bitrate = c.bounded s (scale c s) := by
  have answered : c.answer scale (.report s) = c.requestRates
      ⟨some (if s.bandwidth = 0 then scale c s
        else Nat.min (scale c s) s.bandwidth.toNat), none⟩ :=
    if_neg (ne_true_of_eq_false automatic)
  rw [answered, (c.rates_of_requestRates _).1]
  rfl

/-- A bounded bitrate is at most the estimated bandwidth, if there is an estimate and the minimum
allows it. -/
theorem bounded_le {s : TransportStat} (estimated : s.bandwidth ≠ 0) (bitrate : Nat) :
    c.bounded s bitrate ≤ max c.min s.bandwidth.toNat := by
  unfold bounded clampRate
  rw [if_neg estimated]
  have estimate : Nat.min bitrate s.bandwidth.toNat ≤ s.bandwidth.toNat := Nat.min_le_right ..
  exact Nat.le_trans (Nat.min_le_left ..) (Nat.max_le.mpr
    ⟨Nat.le_trans estimate (Nat.le_max_right ..), Nat.le_max_left ..⟩)

/-- **The rates stay within their bounds, and the patches tell all of them.** After any requests and
reports, whatever the reports made of the bitrate, both rates are within their bounds; the answer to
the next event is the difference it makes to the rates; all patches so far, put on the initial rates
one after the other, give the current ones; and a report that is heeded leaves the bitrate at most
at the estimated bandwidth, unless that is below the minimum. A request that is obeyed sets the
rates it asks for, brought within their bounds, and leaves the others; one that is not changes
nothing. A report in automatic mode sets what the scaling gives, below the estimated bandwidth and
within the bounds; one in manual mode changes nothing. -/
theorem rates_follow_patches (scale : RateController → TransportStat → Nat)
    (initial cap maxFps : Nat) (tuning : HostTuning) (events : List RateEvent) :
    let start := new initial cap maxFps tuning
    let c := start.afterEvents scale events
    let least := Nat.min tuning.minBitrate (max cap 1)
    (least ≤ c.bitrate ∧ c.bitrate ≤ max cap 1 ∧ 1 ≤ c.fps ∧ c.fps ≤ max 1 maxFps) ∧
    (∀ e, (c.answer scale e).1 = c.difference (c.answer scale e).2) ∧
    (start.patches scale events).foldl RatePatch.onto (start.bitrate, start.fps) =
      (c.bitrate, c.fps) ∧
    (∀ s, c.manual = false → s.bandwidth ≠ 0 →
      (c.answer scale (.report s)).2.bitrate ≤ max least s.bandwidth.toNat) ∧
    (∀ s, c.answer scaled (.report s) = c.networkChanged s) ∧
    (∀ r, c.Obeys r →
      (c.answer scale (.request r)).2.bitrate =
        (r.patch.bitrate.map fun b => max least (Min.min b (max cap 1))).getD c.bitrate ∧
      (c.answer scale (.request r)).2.fps =
        (r.patch.fps.map fun n => max 1 (Min.min n (max 1 maxFps))).getD c.fps) ∧
    (∀ r, ¬c.Obeys r → c.answer scale (.request r) = (none, c)) ∧
    (∀ s, c.manual = false →
      (c.answer scale (.report s)).2.bitrate =
        max least (Min.min (if s.bandwidth = 0 then scale c s
          else Min.min (scale c s) s.bandwidth.toNat) (max cap 1))) ∧
    (∀ s, c.manual = true → c.answer scale (.report s) = (none, c)) := by
  intro start c least
  -- The bounds are those the controller was made with, whatever it has answered since.
  have within : c.InBounds := (inBounds_new initial cap maxFps tuning).afterEvents events
  have same : start.SameBounds c := start.sameBounds_afterEvents events
  have minSame : c.min = least := same.min
  have capSame : c.cap = max cap 1 := same.cap
  have maxFpsSame : c.maxFps = max 1 maxFps := same.maxFps.trans (Nat.max_comm ..)
  have ordered : c.min ≤ c.cap := Nat.le_trans within.min_le within.le_cap
  refine ⟨⟨minSame ▸ within.min_le, capSame ▸ within.le_cap, within.one_le,
    maxFpsSame ▸ within.le_maxFps⟩, c.answer_fst scale, start.foldl_patches events, ?_,
    c.answer_scaled_report, ?_, fun r => reconfigure_of_not_obeys, ?_,
    fun s manual => if_pos manual⟩
  · intro s automatic estimated
    rw [bitrate_of_report automatic, ← minSame]
    exact bounded_le estimated (scale c s)
  · intro r obeys
    have closest := clampRate_eq_max_min ordered
    have closestFps := clampRate_eq_max_min (Nat.le_trans within.one_le within.le_maxFps)
    obtain ⟨manual, obeyed⟩ := reconfigure_of_obeys obeys
    obtain ⟨bitrate, fps⟩ := rates_of_requestRates { c with manual } r.patch
    simp only [closest, closestFps] at bitrate fps
    rw [← minSame, ← capSame, ← maxFpsSame]
    change (c.reconfigure r).2.bitrate = _ ∧ (c.reconfigure r).2.fps = _
    rw [obeyed]
    exact ⟨bitrate, fps⟩
  · intro s automatic
    rw [bitrate_of_report automatic, ← minSame, ← capSame]
    exact clampRate_eq_max_min ordered _

end RateController

end Screencast
