import Screencast.Host.Worker

/-! # What a patch says of the rates

Every task either leaves the controller as it is or requests rates of it. Of the rates requested,
brought within their bounds, the patch names those that are new, and the controller takes over what
the patch names and nothing else.
-/

namespace Screencast

/-- The bitrate that a patch names, if there is a patch and it names one. -/
def RatePatch.bitrate? (patch : Option RatePatch) : Option Nat := patch.bind (·.bitrate)

/-- The frame rate that a patch names, if there is a patch and it names one. -/
def RatePatch.fps? (patch : Option RatePatch) : Option Nat := patch.bind (·.fps)

/-- Raising a frame rate to one changes nothing unless a patch names zero. -/
theorem RatePatch.fps_raised {p : RatePatch} (positive : ∀ n, p.fps = some n → 1 ≤ n) (old : Nat) :
    (p.fps.map (max · 1)).getD old = p.fps.getD old := by
  cases named : p.fps with
  | none => rfl
  | some n => exact Nat.max_eq_left (positive n named)

namespace RateController

open RatePatch

variable {c : RateController}

/-- Of the rates that are set, the answer names those that are not in force already. -/
theorem setRates_names (c : RateController) (bitrate fps : Option Nat) :
    bitrate? (c.setRates bitrate fps).1 = bitrate.filter (· != c.bitrate) ∧
      fps? (c.setRates bitrate fps).1 = fps.filter (· != c.fps) := by
  by_cases empty :
      (⟨bitrate.filter (· != c.bitrate), fps.filter (· != c.fps)⟩ : RatePatch).isEmpty = true
  · have nothing : (c.setRates bitrate fps).1 = none := if_pos empty
    simp only [RatePatch.isEmpty, Bool.and_eq_true, Option.isNone_iff_eq_none] at empty
    rw [nothing, empty.1, empty.2]
    exact ⟨rfl, rfl⟩
  · have patch : (c.setRates bitrate fps).1 =
        some ⟨bitrate.filter (· != c.bitrate), fps.filter (· != c.fps)⟩ := if_neg empty
    rw [patch]
    exact ⟨rfl, rfl⟩

/-- Rates that are in force already are not set. -/
theorem setRates_of_old {bitrate fps : Option Nat}
    (bitrateOld : bitrate.filter (· != c.bitrate) = none)
    (fpsOld : fps.filter (· != c.fps) = none) : c.setRates bitrate fps = (none, c) := by
  unfold setRates
  rw [bitrateOld, fpsOld]
  rfl

/-- A patch names the bitrate asked for, brought within its bounds, unless it is in force. -/
theorem requestRates_bitrate? (c : RateController) (p : RatePatch) :
    bitrate? (c.requestRates p).1 =
      (p.bitrate.map (clampRate · c.min c.cap)).filter (· != c.bitrate) :=
  (c.setRates_names _ _).1

private theorem requestRates_fps? (c : RateController) (p : RatePatch) :
    fps? (c.requestRates p).1 = (p.fps.map (clampRate · 1 c.maxFps)).filter (· != c.fps) :=
  (c.setRates_names _ _).2

/-- What is brought within bounds lies within them. -/
theorem clampRate_within {n low high : Nat} (ordered : low ≤ high) :
    low ≤ clampRate n low high ∧ clampRate n low high ≤ high := by
  unfold clampRate
  exact ⟨Nat.le_min.mpr ⟨Nat.le_max_right n low, ordered⟩, Nat.min_le_right ..⟩

/-- Every bitrate that a patch names lies within the bounds. -/
theorem within_of_requestRates {p : RatePatch} {b : Nat} (ordered : c.min ≤ c.cap)
    (named : bitrate? (c.requestRates p).1 = some b) : c.min ≤ b ∧ b ≤ c.cap := by
  rw [requestRates_bitrate?] at named
  obtain ⟨clamped, -⟩ := Option.filter_eq_some_iff.mp named
  obtain ⟨n, -, rfl⟩ := Option.map_eq_some_iff.mp clamped
  exact clampRate_within ordered

/-- Every frame rate that a patch names lies within the bounds. -/
theorem fps_within_of_requestRates {p : RatePatch} {n : Nat} (ordered : 1 ≤ c.maxFps)
    (named : fps? (c.requestRates p).1 = some n) : 1 ≤ n ∧ n ≤ c.maxFps := by
  rw [requestRates_fps?] at named
  obtain ⟨clamped, -⟩ := Option.filter_eq_some_iff.mp named
  obtain ⟨n, -, rfl⟩ := Option.map_eq_some_iff.mp clamped
  exact clampRate_within ordered

/-- The controller takes over what the patch names. -/
theorem requestRates_snd (c : RateController) (p : RatePatch) :
    (c.requestRates p).2 = { c with
      bitrate := (bitrate? (c.requestRates p).1).getD c.bitrate
      fps := (fps? (c.requestRates p).1).getD c.fps } := by
  unfold requestRates
  obtain ⟨bitrate, fps⟩ := c.setRates_names
    (p.bitrate.map (clampRate · c.min c.cap)) (p.fps.map (clampRate · 1 c.maxFps))
  rw [bitrate, fps]
  rfl

/-- Bringing a rate within bounds takes it to the closest one in between. -/
theorem clampRate_eq_max_min {low high : Nat} (ordered : low ≤ high) (n : Nat) :
    clampRate n low high = Max.max low (Min.min n high) := by
  change Min.min (Max.max n low) high = _
  omega

private theorem getD_filter_bne (asked : Option Nat) (old : Nat) :
    (asked.filter (· != old)).getD old = asked.getD old := by
  cases asked with
  | none => rfl
  | some n =>
      rw [Option.filter_some]
      split
      next => rfl
      next same => exact (bne_eq_false_iff_eq.mp (Bool.eq_false_iff.mpr same)).symm

/-- The rates asked for, brought within their bounds, are in force afterwards. -/
theorem rates_of_requestRates (c : RateController) (p : RatePatch) :
    (c.requestRates p).2.bitrate = (p.bitrate.map (clampRate · c.min c.cap)).getD c.bitrate ∧
      (c.requestRates p).2.fps = (p.fps.map (clampRate · 1 c.maxFps)).getD c.fps :=
  ⟨getD_filter_bne .., getD_filter_bne ..⟩

/-- Requests without a trigger are obeyed in automatic mode only. -/
def Obeys (c : RateController) (r : Wire.RateRequest) : Prop :=
  r.trigger = none → c.manual = false

/-- An obeyed request is one for rates, and may change the mode. -/
theorem reconfigure_of_obeys {r : Wire.RateRequest} (obeys : c.Obeys r) :
    ∃ manual, c.reconfigure r = { c with manual }.requestRates r.patch := by
  cases trigger : r.trigger with
  | some chosen =>
      cases chosen with
      | turnOffAuto => exact ⟨true, by simp only [reconfigure, trigger]⟩
      | turnOnAuto => exact ⟨false, by simp only [reconfigure, trigger]⟩
  | none =>
      refine ⟨c.manual, ?_⟩
      simp only [reconfigure, trigger]
      rw [if_neg (ne_true_of_eq_false (obeys trigger))]

/-- A request that is not obeyed changes nothing. -/
theorem reconfigure_of_not_obeys {r : Wire.RateRequest} (ignored : ¬c.Obeys r) :
    c.reconfigure r = (none, c) := by
  unfold Obeys at ignored
  unfold reconfigure
  cases trigger : r.trigger with
  | some trigger => exact absurd (fun missing => nomatch trigger.symm.trans missing) ignored
  | none =>
      cases manual : c.manual with
      | true => rfl
      | false => exact absurd (fun _ => manual) ignored

/-- The bitrate of an obeyed request is left out only if it is the one believed in force. -/
theorem bitrate_of_silent {r : Wire.RateRequest} {b : Nat} (obeys : c.Obeys r)
    (asked : r.patch.bitrate = some b) (silent : bitrate? (c.reconfigure r).1 = none) :
    c.bitrate = clampRate b c.min c.cap := by
  obtain ⟨manual, obeyed⟩ := reconfigure_of_obeys obeys
  rw [obeyed, requestRates_bitrate?, asked] at silent
  have same := Option.filter_eq_none_iff.mp silent _ rfl
  simp only [bne_iff_ne, ne_eq, Decidable.not_not] at same
  exact same.symm

/-- In manual mode no report is answered. -/
theorem networkChanged_of_manual (manual : c.manual = true) (s : Wire.TransportStat) :
    c.networkChanged s = (none, c) := if_pos manual

/-- In automatic mode a report is answered like a request for the bitrate it suggests. -/
theorem networkChanged_of_automatic (automatic : c.manual = false) (s : Wire.TransportStat) :
    ∃ bitrate, c.networkChanged s = c.requestRates ⟨some bitrate, none⟩ := by
  refine ⟨if s.bandwidth = 0 then c.scaled s else Nat.min (c.scaled s) s.bandwidth.toNat, ?_⟩
  exact if_neg (ne_true_of_eq_false automatic)

end RateController

open RateController

/-- A task requests rates of the controller, or leaves it as it is. -/
theorem HostWorker.plan_cases (c : RateController) (task : HostTask) :
    plan c task = (none, c) ∨ ∃ manual p, plan c task = { c with manual }.requestRates p := by
  cases task with
  | requestKeyframe => exact .inl rfl
  | reconfigure r =>
      by_cases obeys : c.Obeys r
      · obtain ⟨manual, obeyed⟩ := reconfigure_of_obeys obeys
        exact .inr ⟨manual, r.patch, obeyed⟩
      · exact .inl (reconfigure_of_not_obeys obeys)
  | networkChanged stat =>
      cases manual : c.manual with
      | true => exact .inl (networkChanged_of_manual manual stat)
      | false =>
          obtain ⟨bitrate, answered⟩ := networkChanged_of_automatic manual stat
          exact .inr ⟨c.manual, _, answered⟩

/-- Every bitrate that a task leads to lies within the bounds. -/
theorem HostWorker.within_of_plan {c : RateController} {task : HostTask} {b : Nat}
    (ordered : c.min ≤ c.cap) (named : RatePatch.bitrate? (plan c task).1 = some b) :
    c.min ≤ b ∧ b ≤ c.cap := by
  rcases plan_cases c task with unchanged | ⟨manual, p, requested⟩
  · rw [unchanged] at named
    cases named
  · rw [requested] at named
    exact within_of_requestRates ordered named

/-- Every frame rate that a task leads to lies within the bounds. -/
theorem HostWorker.fps_within_of_plan {c : RateController} {task : HostTask} {n : Nat}
    (ordered : 1 ≤ c.maxFps) (named : RatePatch.fps? (plan c task).1 = some n) :
    1 ≤ n ∧ n ≤ c.maxFps := by
  rcases plan_cases c task with unchanged | ⟨manual, p, requested⟩
  · rw [unchanged] at named
    cases named
  · rw [requested] at named
    exact fps_within_of_requestRates ordered named

/-- The controller takes over what the patch names, and the mode may have changed. -/
theorem HostWorker.plan_rates (c : RateController) (task : HostTask) :
    ∃ manual, (plan c task).2 = { c with
      manual
      bitrate := (RatePatch.bitrate? (plan c task).1).getD c.bitrate
      fps := (RatePatch.fps? (plan c task).1).getD c.fps } := by
  rcases plan_cases c task with unchanged | ⟨manual, p, requested⟩
  · exact ⟨c.manual, by rw [unchanged]; rfl⟩
  · refine ⟨manual, ?_⟩
    rw [requested]
    exact requestRates_snd { c with manual } p

end Screencast
