import Screencast.Proofs.Rate.Patches

/-! # The bounds of the rates

A controller is made with both rates within its bounds, and no task takes them out: a patch names
rates that have been brought within the bounds, and the bounds stay as they are.
-/

namespace Screencast

open RatePatch HostWorker

namespace RateController

/-- The controller once it has answered tasks, one after the other. -/
def afterTasks (c : RateController) (tasks : List HostTask) : RateController :=
  tasks.foldl (fun c task => (plan c task).2) c

/-- The controllers there can be: made with some bounds, then given some tasks. -/
inductive Reachable : RateController → Prop
  | new (initial cap maxFps : Nat) (tuning : HostTuning) :
      Reachable (.new initial cap maxFps tuning)
  | plan {c : RateController} (task : HostTask) (before : Reachable c) : Reachable (plan c task).2

/-- Both rates lie within their bounds. -/
structure InBounds (c : RateController) : Prop where
  min_le : c.min ≤ c.bitrate
  le_cap : c.bitrate ≤ c.cap
  one_le : 1 ≤ c.fps
  le_maxFps : c.fps ≤ c.maxFps

/-- Two controllers have the same bounds. -/
structure SameBounds (c c' : RateController) : Prop where
  min : c'.min = c.min
  cap : c'.cap = c.cap
  maxFps : c'.maxFps = c.maxFps

variable {c c₁ c₂ : RateController}

/-- Bounds that stay the same twice stay the same. -/
theorem SameBounds.trans (first : c.SameBounds c₁) (second : c₁.SameBounds c₂) :
    c.SameBounds c₂ where
  min := second.min.trans first.min
  cap := second.cap.trans first.cap
  maxFps := second.maxFps.trans first.maxFps

/-- A controller is made with both rates within their bounds. -/
theorem inBounds_new (initial cap maxFps : Nat) (tuning : HostTuning) :
    (new initial cap maxFps tuning).InBounds := by
  have ordered : Nat.min tuning.minBitrate (Nat.max cap 1) ≤ Nat.max cap 1 := Nat.min_le_right ..
  obtain ⟨least, most⟩ := clampRate_within (n := initial) ordered
  exact {
    min_le := least
    le_cap := most
    one_le := Nat.le_max_right ..
    le_maxFps := Nat.le_refl _ }

/-- Requests do not move the bounds. -/
theorem sameBounds_requestRates (c : RateController) (p : RatePatch) :
    c.SameBounds (c.requestRates p).2 := by
  rw [requestRates_snd]
  exact ⟨rfl, rfl, rfl⟩

/-- What a patch names lies within the bounds, and what it leaves out lay within them before. -/
theorem InBounds.requestRates (within : c.InBounds) (p : RatePatch) :
    (c.requestRates p).2.InBounds := by
  rw [requestRates_snd]
  have bitrate : c.min ≤ (bitrate? (c.requestRates p).1).getD c.bitrate ∧
      (bitrate? (c.requestRates p).1).getD c.bitrate ≤ c.cap := by
    cases named : bitrate? (c.requestRates p).1 with
    | none => exact ⟨within.min_le, within.le_cap⟩
    | some b => exact within_of_requestRates (Nat.le_trans within.min_le within.le_cap) named
  have fps : 1 ≤ (fps? (c.requestRates p).1).getD c.fps ∧
      (fps? (c.requestRates p).1).getD c.fps ≤ c.maxFps := by
    cases named : fps? (c.requestRates p).1 with
    | none => exact ⟨within.one_le, within.le_maxFps⟩
    | some n => exact fps_within_of_requestRates (Nat.le_trans within.one_le within.le_maxFps) named
  exact ⟨bitrate.1, bitrate.2, fps.1, fps.2⟩

/-- Tasks do not move the bounds. -/
theorem sameBounds_plan (c : RateController) (task : HostTask) : c.SameBounds (plan c task).2 := by
  obtain ⟨manual, rates⟩ := plan_rates c task
  rw [rates]
  exact ⟨rfl, rfl, rfl⟩

/-- No task takes the rates out of their bounds. -/
theorem InBounds.plan (within : c.InBounds) (task : HostTask) : (plan c task).2.InBounds := by
  rcases plan_cases c task with unchanged | ⟨manual, p, requested⟩
  · rw [unchanged]
    exact within
  · have switched : InBounds { c with manual } := { within with }
    rw [requested]
    exact switched.requestRates p

/-- No patch names a frame rate of zero. -/
theorem InBounds.one_le_of_plan (within : c.InBounds) {task : HostTask} {p : RatePatch}
    (planned : (HostWorker.plan c task).1 = some p) (n : Nat) (named : p.fps = some n) : 1 ≤ n := by
  have ordered : 1 ≤ c.maxFps := Nat.le_trans within.one_le within.le_maxFps
  have among : fps? (HostWorker.plan c task).1 = some n := by
    rw [planned]
    exact named
  exact (fps_within_of_plan ordered among).1

/-- Nor do any number of tasks. -/
theorem InBounds.afterTasks (within : c.InBounds) (tasks : List HostTask) :
    (c.afterTasks tasks).InBounds := by
  induction tasks generalizing c with
  | nil => exact within
  | cons task tasks ih => exact ih (within.plan task)

/-- The bounds stay the same however many tasks are done. -/
theorem sameBounds_afterTasks (c : RateController) (tasks : List HostTask) :
    c.SameBounds (c.afterTasks tasks) := by
  induction tasks generalizing c with
  | nil => exact ⟨rfl, rfl, rfl⟩
  | cons task tasks ih => exact (c.sameBounds_plan task).trans (ih (plan c task).2)

/-- Every controller there can be has its rates within their bounds. -/
theorem Reachable.inBounds (reachable : c.Reachable) : c.InBounds := by
  induction reachable with
  | new initial cap maxFps tuning => exact inBounds_new initial cap maxFps tuning
  | plan task before ih => exact ih.plan task

end RateController

end Screencast
