import Screencast.Proofs.History
import Screencast.Proofs.Rate.Answers

/-! # Manual mode

Only a trigger changes the mode, and in manual mode an event without one leaves no trace: taken out
of a run, it is missed neither in the controller nor among the patches
(`Screencast.RateController.manual_mode_is_airtight`).
-/

namespace Screencast

open Wire

namespace RateEvent

/-- The switch between the modes that an event throws. -/
def trigger? : RateEvent → Option RateTrigger
  | request r => r.trigger
  | report _ => none

/-- The mode that the last trigger of some events leads to, or else the one before them. -/
def modeAfter (manual : Bool) (events : List RateEvent) : Bool :=
  (events.filterMap trigger?).getLast?.elim manual (· == .turnOffAuto)

/-- What is left of some events without those that come in manual mode and carry no trigger. -/
def heard (manual : Bool) : List RateEvent → List RateEvent
  | [] => []
  | e :: events =>
    if manual = true ∧ e.trigger? = none then heard manual events
    else e :: heard (modeAfter manual [e]) events

private theorem modeAfter_singleton (manual : Bool) (e : RateEvent) :
    modeAfter manual [e] = e.trigger?.elim manual (· == .turnOffAuto) := by
  rw [modeAfter, History.filterMap_singleton]
  cases e.trigger? <;> rfl

private theorem modeAfter_cons (manual : Bool) (e : RateEvent) (events : List RateEvent) :
    modeAfter manual (e :: events) = modeAfter (modeAfter manual [e]) events := by
  rw [modeAfter_singleton]
  unfold modeAfter
  cases carried : e.trigger? with
  | none => rw [List.filterMap_cons_none carried]; rfl
  | some trigger =>
      rw [List.filterMap_cons_some carried, List.getLast?_cons]
      cases (events.filterMap RateEvent.trigger?).getLast? with
      | none => rfl
      | some last => rfl

end RateEvent

namespace RateController

open RateEvent

variable {scale : RateController → TransportStat → Nat} {c : RateController}

/-- Rates asked for leave the mode alone. -/
theorem requestRates_manual (c : RateController) (p : RatePatch) :
    (c.requestRates p).2.manual = c.manual := by
  rw [requestRates_snd]

/-- The mode after an event is the one its switch names. -/
theorem answer_manual (c : RateController) (e : RateEvent) :
    (c.answer scale e).2.manual = modeAfter c.manual [e] := by
  rw [modeAfter_singleton]
  cases e with
  | report s =>
      change (if c.manual then _ else _ : Option RatePatch × RateController).2.manual = c.manual
      split <;> rfl
  | request r =>
      change (c.reconfigure r).2.manual = r.trigger.elim c.manual _
      unfold reconfigure
      cases r.trigger with
      | none =>
          change (if c.manual then _ else _ : Option RatePatch × RateController).2.manual = c.manual
          split
          next => rfl
          next => exact requestRates_manual ..
      | some trigger =>
          cases trigger with
          | turnOnAuto | turnOffAuto => exact requestRates_manual ..

/-- In manual mode nothing without a trigger is answered, and it leaves no trace. -/
theorem answer_of_unheard (manual : c.manual = true) {e : RateEvent} (bare : e.trigger? = none) :
    c.answer scale e = (none, c) := by
  cases e with
  | request r =>
      apply reconfigure_of_not_obeys
      intro obeys
      exact absurd (obeys bare) (ne_false_of_eq_true manual)
  | report s => exact if_pos manual

private theorem manual_afterEvents (c : RateController) (events : List RateEvent) :
    (c.afterEvents scale events).manual = modeAfter c.manual events := by
  induction events generalizing c with
  | nil => rfl
  | cons e events ih =>
      rw [modeAfter_cons, ← @answer_manual scale]
      exact ih (c.answer scale e).2

/-- What is not heard is missed neither in the controller nor among the patches. -/
theorem heard_suffices (c : RateController) (events : List RateEvent) :
    c.afterEvents scale (heard c.manual events) = c.afterEvents scale events ∧
      c.patches scale (heard c.manual events) = c.patches scale events := by
  induction events generalizing c with
  | nil => exact ⟨rfl, rfl⟩
  | cons e events ih =>
      by_cases unheard : c.manual = true ∧ e.trigger? = none
      · have ignored := @answer_of_unheard scale c unheard.1 e unheard.2
        rw [heard, if_pos unheard, patches, ignored]
        change _ = (c.answer scale e).2.afterEvents scale events ∧ _
        rw [ignored]
        exact ih c
      · obtain ⟨after, patched⟩ := ih (c.answer scale e).2
        rw [answer_manual] at after patched
        rw [heard, if_neg unheard, patches, patches, patched]
        exact ⟨after, rfl⟩

/-- **Manual mode is airtight.** The mode is decided by the last trigger there was, and is automatic
until there is one; requests without a trigger and reports that come in manual mode can be taken out
of a run without any difference to the rates, the mode and the patches. -/
theorem manual_mode_is_airtight (c : RateController) (events : List RateEvent) :
    (c.afterEvents scaled events).manual = modeAfter c.manual events ∧
    (∀ initial cap maxFps tuning, (new initial cap maxFps tuning).manual = false) ∧
    c.afterEvents scaled (heard c.manual events) = c.afterEvents scaled events ∧
    c.patches scaled (heard c.manual events) = c.patches scaled events :=
  ⟨c.manual_afterEvents events, fun _ _ _ _ => rfl, c.heard_suffices events⟩

end RateController

end Screencast
