import Screencast.Lossless.Encoder
import Screencast.Proofs.Host.Turn
import Screencast.Proofs.Rate.Bounds

/-! # Three holders of the rates

The controller, the encoder and the throttle each remember the frame rate, and the first two the
bitrate as well. A patch names only what is new to the controller, so the three stay alike under
tasks of any content, provided that they were alike before
(`Screencast.HostWorker.drain_keeps_rates_alike`).
-/

namespace Screencast.HostWorker

open RatePatch

section Rates

variable {ε : Type} [Encoder ε]

/-- The throttle aims at the patched rate, at least one frame a second. -/
theorem apply_target (w : HostWorker ε) (patch : RatePatch) :
    (w.apply patch).2.throttle.target = (patch.fps.map (max · 1)).getD w.throttle.target := by
  cases named : patch.fps with
  | none =>
      simp only [apply, named]
      rfl
  | some n =>
      simp only [apply, named]
      rfl

/-- A task changes the rates as its plan says, whatever the encoder answers. -/
theorem rates_perform (w : HostWorker ε) (task : HostTask) :
    (w.perform task).2.rates = (plan w.rates task).2 := by
  cases planned : (plan w.rates task).1 with
  | none => rw [perform_of_none planned]
  | some patch =>
      rw [perform_of_some planned]
      rfl

private theorem rates_performAll (w : HostWorker ε) (tasks : List HostTask) :
    (w.performAll tasks).2.rates = w.rates.afterTasks tasks := by
  induction tasks generalizing w with
  | nil => rfl
  | cons task tasks ih =>
      rw [performAll_cons, ih, rates_perform]
      rfl

/-- The tasks of a turn change the rates one after the other. -/
theorem rates_drain (w : HostWorker ε) (tasks : List HostTask) :
    (w.drain tasks).2.rates = w.rates.afterTasks tasks := by
  rw [← rates_performAll]
  by_cases asked : .requestKeyframe ∈ tasks
  · rw [drain_of_mem asked]
    rfl
  · rw [drain_of_not_mem asked]

end Rates

/-- Encoder and throttle run at the rates that the controller believes in force. -/
structure RatesAlike (w : HostWorker LosslessEncoder) : Prop where
  bitrate : w.encoder.params.bitrate = w.rates.bitrate
  fps : w.encoder.params.fps = w.rates.fps
  target : w.throttle.target = w.rates.fps

variable {w : HostWorker LosslessEncoder}

/-- Encoder and throttle take over what a patch names, if its frame rate is not zero. -/
theorem apply_rates (w : HostWorker LosslessEncoder) {patch : RatePatch}
    (positive : ∀ n, patch.fps = some n → 1 ≤ n) :
    (w.apply patch).2.encoder.params.bitrate = patch.bitrate.getD w.encoder.params.bitrate ∧
      (w.apply patch).2.encoder.params.fps = patch.fps.getD w.encoder.params.fps ∧
      (w.apply patch).2.throttle.target = patch.fps.getD w.throttle.target := by
  rw [apply_target]
  exact ⟨rfl, fps_raised positive _, fps_raised positive _⟩

/-- A task keeps encoder, throttle and controller at the same rates. -/
theorem RatesAlike.perform (alike : w.RatesAlike) (within : w.rates.InBounds) (task : HostTask) :
    (w.perform task).2.RatesAlike := by
  obtain ⟨manual, rates⟩ := plan_rates w.rates task
  cases planned : (plan w.rates task).1 with
  | none =>
      rw [planned] at rates
      rw [perform_of_none planned, rates]
      exact ⟨alike.bitrate, alike.fps, alike.target⟩
  | some patch =>
      have positive := within.one_le_of_plan planned
      rw [planned] at rates
      rw [perform_of_some planned, rates]
      obtain ⟨bitrate, fps, target⟩ :=
        apply_rates { w with rates := (plan w.rates task).2 } positive
      rw [rates] at bitrate fps target
      constructor
      · rw [bitrate, alike.bitrate]
        rfl
      · rw [fps, alike.fps]
        rfl
      · rw [target, alike.target]
        rfl

/-- The tasks of a turn keep encoder, throttle and controller at the same rates. -/
theorem RatesAlike.performAll (alike : w.RatesAlike) (within : w.rates.InBounds)
    (tasks : List HostTask) : (w.performAll tasks).2.RatesAlike := by
  induction tasks generalizing w with
  | nil => exact alike
  | cons task tasks ih =>
      rw [performAll_cons]
      apply ih (alike.perform within task)
      rw [rates_perform]
      exact within.plan task

/-- A batch with requests for keyframes in it keeps them at the same rates too. -/
theorem RatesAlike.drain (alike : w.RatesAlike) (within : w.rates.InBounds)
    (tasks : List HostTask) : (w.drain tasks).2.RatesAlike := by
  have performed := alike.performAll within tasks
  by_cases asked : .requestKeyframe ∈ tasks
  · rw [drain_of_mem asked]
    exact ⟨performed.bitrate, performed.fps, performed.target⟩
  · rw [drain_of_not_mem asked]
    exact performed

/-- **Tasks keep the three holders of the rates together and within the bounds.** Wherever encoder
and throttle run at the rates of a controller that can come to be, they do so after any tasks, at
the rates with which the controller has answered them. -/
theorem drain_keeps_rates_alike (reachable : w.rates.Reachable) (alike : w.RatesAlike)
    (tasks : List HostTask) :
    let w' := (w.drain tasks).2
    w'.RatesAlike ∧ w'.rates.InBounds ∧ w.rates.SameBounds w'.rates ∧
      w'.rates = w.rates.afterTasks tasks := by
  intro w'
  have answered : w'.rates = w.rates.afterTasks tasks := w.rates_drain tasks
  have within := reachable.inBounds
  refine ⟨alike.drain within tasks, ?_, ?_, answered⟩
  · rw [answered]
    exact within.afterTasks tasks
  · rw [answered]
    exact w.rates.sameBounds_afterTasks tasks

/-- A worker that begins at ten megabits and thirty pictures a second. -/
def steadyStart : HostWorker LosslessEncoder :=
  { encoder := .new ⟨.zstd, 640, 360, 30, 10000000, .none⟩, codec := .zstd,
    mode := ⟨640, 360, 60, .deg0⟩,
    throttle := .new 30 2, rates := .new 10000000 20000000 30 {} }

/-- More than the cap is asked for by hand; a report is ignored, one in automatic mode is not. -/
def mixedTasks : List HostTask :=
  [.reconfigure ⟨some .turnOffAuto, some 90000000, some 0⟩, .requestKeyframe,
    .networkChanged ⟨50, 0, .zero⟩, .reconfigure ⟨some .turnOnAuto, none, some 24⟩,
    .networkChanged ⟨50, 0, .zero⟩]

/-- Encoder and throttle end up at the rates of the last request and the last report. -/
theorem mixedTasks_keep_rates_alike :
    (steadyStart.rates.Reachable ∧ steadyStart.RatesAlike) ∧
      let w := (steadyStart.drain mixedTasks).2
      w.encoder.params.bitrate = 17000000 ∧ w.encoder.params.fps = 24 ∧ w.throttle.target = 24 := by
  have reachable : steadyStart.rates.Reachable := .new 10000000 20000000 30 {}
  have alike : steadyStart.RatesAlike := ⟨rfl, rfl, rfl⟩
  obtain ⟨after, -, -, answered⟩ := drain_keeps_rates_alike reachable alike mixedTasks
  refine ⟨⟨reachable, alike⟩, ?_⟩
  dsimp only at after answered ⊢
  rw [after.bitrate, after.fps, after.target, answered]
  decide

end Screencast.HostWorker
