import Mathlib.Data.List.Basic
import Screencast.Proofs.Host.RateAgreement
import Screencast.Proofs.Rate.Answers

/-! # Patches that the encoder refuses

Controller and throttle take over a patch before the encoder is asked, and the answer of the encoder
reaches neither of them. So they follow all patches there were, and the encoder only those that it
accepted. A patch tells of a rate that is new to the controller; therefore the first one refused
parts the two, and the request behind it, made again, is left out as nothing new
(`Screencast.HostWorker.refusals_go_unnoticed`).
-/

namespace Screencast

open HostWorker

/-- An encoder runs at the rates it has accepted: a patch that it refuses does not change them. -/
structure Encoder.Truthful {ε : Type} [Encoder ε] (running : ε → Nat × Nat) : Prop where
  accepted : ∀ (e : ε) (p : RatePatch), (∀ n, p.fps = some n → 1 ≤ n) →
    (reconfigure e p).1 = true → running (reconfigure e p).2 = p.onto (running e)
  refused : ∀ (e : ε) (p : RatePatch),
    (reconfigure e p).1 = false → running (reconfigure e p).2 = running e
  keyframe : ∀ e : ε, running (requestKeyframe e) = running e

namespace LosslessEncoder

/-- Bitrate and frame rate. -/
def running (e : LosslessEncoder) : Nat × Nat := (e.params.bitrate, e.params.fps)

/-- The lossless encoder refuses nothing. -/
theorem truthful : Encoder.Truthful running where
  accepted _ _ positive _ := Prod.ext rfl (RatePatch.fps_raised positive _)
  refused _ _ refused := nomatch refused
  keyframe _ := rfl

end LosslessEncoder

namespace HostAction

/-- The patches that the encoder was offered. -/
def offered (actions : List HostAction) : List RatePatch :=
  actions.filterMap fun
    | .reconfigured patch _ => some patch
    | _ => none

/-- The patches that the encoder accepted. -/
def accepted (actions : List HostAction) : List RatePatch :=
  actions.filterMap fun
    | .reconfigured patch true => some patch
    | _ => none

private theorem offered_append (earlier later : List HostAction) :
    offered (earlier ++ later) = offered earlier ++ offered later :=
  List.filterMap_append

private theorem accepted_append (earlier later : List HostAction) :
    accepted (earlier ++ later) = accepted earlier ++ accepted later :=
  List.filterMap_append

private theorem accepted_eq_offered {actions : List HostAction}
    (all : ∀ p, .reconfigured p false ∉ actions) : accepted actions = offered actions := by
  refine List.filterMap_congr fun a did => ?_
  cases a with
  | reconfigured p answer =>
      cases answer with
      | true => rfl
      | false => exact absurd did (all p)
  | _ => rfl

end HostAction

open HostAction

namespace RateController

variable {c : RateController}

/-- What a task makes of the rates is told in full. -/
theorem plan_fst (c : RateController) (task : HostTask) :
    (plan c task).1 = c.difference (plan c task).2 := by
  cases task with
  | requestKeyframe => exact (if_pos ⟨rfl, rfl⟩).symm
  | reconfigure r => exact c.answer_fst scaled (.request r)
  | networkChanged s => exact c.answer_fst scaled (.report s)

/-- There is no patch exactly when bitrate and frame rate stay as they are. -/
theorem difference_eq_none_iff {c' : RateController} :
    c.difference c' = none ↔ (c'.bitrate, c'.fps) = (c.bitrate, c.fps) := by
  unfold difference
  rw [Prod.mk.injEq]
  split
  next same => exact iff_of_true rfl same
  next other => exact iff_of_false (Option.some_ne_none _) other

/-- What has been asked for is not new any more. -/
theorem filter_again (asked : Option Nat) (before : Nat) :
    asked.filter (· != (asked.filter (· != before)).getD before) = none := by
  cases asked with
  | none => rfl
  | some n =>
      by_cases new : (n != before) = true
      · have kept : (some n).filter (· != before) = some n := if_pos new
        rw [kept]
        exact if_neg (ne_true_of_eq_false (bne_self_eq_false n))
      · have dropped : (some n).filter (· != before) = none := if_neg new
        rw [dropped]
        exact if_neg new

/-- A request made a second time finds everything as it asked. -/
theorem requestRates_again (c : RateController) (p : RatePatch) :
    (c.requestRates p).2.requestRates p = (none, (c.requestRates p).2) :=
  setRates_of_old (filter_again ..) (filter_again ..)

/-- A request that is made again at once changes nothing any more. -/
theorem reconfigure_again (c : RateController) (r : Wire.RateRequest) :
    (c.reconfigure r).2.reconfigure r = (none, (c.reconfigure r).2) := by
  cases trigger : r.trigger with
  | some chosen =>
      cases chosen with
      | turnOffAuto =>
          simp only [reconfigure, trigger]
          exact { c with manual := true }.requestRates_again r.patch
      | turnOnAuto =>
          simp only [reconfigure, trigger]
          exact { c with manual := false }.requestRates_again r.patch
  | none =>
      by_cases manual : c.manual = true
      · have ignored : c.reconfigure r = (none, c) := by
          simp only [reconfigure, trigger, if_pos manual]
        rw [ignored]
        exact ignored
      · have heard (c' : RateController) (same : c'.manual = c.manual) :
            c'.reconfigure r = c'.requestRates r.patch := by
          simp only [reconfigure, trigger, same, if_neg manual]
        rw [heard c rfl, heard (c.requestRates r.patch).2 rfl]
        exact c.requestRates_again r.patch

end RateController

namespace HostWorker

variable {ε : Type} {running : ε → Nat × Nat} {w w₁ w₂ : HostWorker ε}

/-- The rates that the controller takes to be in force. -/
def believed (w : HostWorker ε) : Nat × Nat := (w.rates.bitrate, w.rates.fps)

/-- What the encoder runs at is what the controller takes to be in force. -/
def Agrees (running : ε → Nat × Nat) (w : HostWorker ε) : Prop := running w.encoder = w.believed

/-- From `w` to `w'` controller and throttle took over the patches that the encoder was offered, and
the encoder those that it accepted. -/
structure Follows (running : ε → Nat × Nat) (w : HostWorker ε) (done : List HostAction)
    (w' : HostWorker ε) : Prop where
  believed : w'.believed = (offered done).foldl RatePatch.onto w.believed
  encoder : running w'.encoder = (accepted done).foldl RatePatch.onto (running w.encoder)
  tied : w.throttle.target = w.rates.fps → w'.throttle.target = w'.rates.fps

/-- Two stretches of a run, one behind the other. -/
theorem Follows.trans {done more : List HostAction} (first : w.Follows running done w₁)
    (second : w₁.Follows running more w₂) : w.Follows running (done ++ more) w₂ where
  believed := by
    rw [offered_append, List.foldl_append, ← first.believed]
    exact second.believed
  encoder := by
    rw [accepted_append, List.foldl_append, ← first.encoder]
    exact second.encoder
  tied before := second.tied (first.tied before)

variable [Encoder ε]

/-- A task comes to nothing, or it offers the encoder a patch, which tells of something new. -/
theorem perform_cases (w : HostWorker ε) (task : HostTask) :
    ((w.perform task).1 = [] ∧ (w.perform task).2.believed = w.believed ∧
      (w.perform task).2.encoder = w.encoder ∧ (w.perform task).2.throttle = w.throttle) ∨
    ∃ p, (plan w.rates task).1 = some p ∧
      (w.perform task).1 = [.reconfigured p (Encoder.reconfigure w.encoder p).1] ∧
      (w.perform task).2.believed = p.onto w.believed ∧
      (w.perform task).2.believed ≠ w.believed ∧
      (w.perform task).2.encoder = (Encoder.reconfigure w.encoder p).2 ∧
      (w.perform task).2.throttle.target =
        (p.fps.map (max · 1)).getD w.throttle.target := by
  have told := RateController.plan_fst w.rates task
  have follows := w.rates.foldl_difference (plan w.rates task).2
  rw [← told] at follows
  cases planned : (plan w.rates task).1 with
  | none =>
      have same := RateController.difference_eq_none_iff.mp (told.symm.trans planned)
      rw [perform_of_none planned]
      exact .inl ⟨rfl, same, rfl, rfl⟩
  | some p =>
      have new := mt RateController.difference_eq_none_iff.mpr fun undecided =>
        Option.some_ne_none p (planned.symm.trans (told.trans undecided))
      rw [planned] at follows
      rw [perform_of_some planned]
      exact .inr ⟨p, rfl, rfl, follows.symm, new, rfl, apply_target _ p⟩

private theorem perform_follows (truthful : Encoder.Truthful running) (within : w.rates.InBounds)
    (task : HostTask) : w.Follows running (w.perform task).1 (w.perform task).2 := by
  rcases w.perform_cases task with
    ⟨nothing, believed, encoder, throttle⟩ | ⟨p, planned, offer, believed, -, encoder, target⟩
  · rw [nothing]
    refine ⟨believed, congrArg running encoder, fun tied => ?_⟩
    rw [throttle, tied]
    exact (congrArg Prod.snd believed).symm
  · have positive := within.one_le_of_plan planned
    rw [offer]
    refine ⟨believed, ?_, fun tied => ?_⟩
    · rw [encoder]
      cases answer : (Encoder.reconfigure w.encoder p).1 with
      | true => exact truthful.accepted w.encoder p positive answer
      | false => exact truthful.refused w.encoder p answer
    · have fps : (w.perform task).2.rates.fps = p.fps.getD w.rates.fps :=
        congrArg Prod.snd believed
      rw [target, tied, fps]
      exact RatePatch.fps_raised positive _

private theorem performAll_follows (truthful : Encoder.Truthful running) (within : w.rates.InBounds)
    (tasks : List HostTask) : w.Follows running (w.performAll tasks).1 (w.performAll tasks).2 := by
  induction tasks generalizing w with
  | nil => exact ⟨rfl, rfl, id⟩
  | cons task tasks ih =>
      rw [performAll_cons]
      refine (perform_follows truthful within task).trans (ih ?_)
      rw [rates_perform]
      exact within.plan task

/-- The tasks of a turn keep both accounts: what the controller believes and what the encoder runs
at. -/
theorem drain_follows (truthful : Encoder.Truthful running) (within : w.rates.InBounds)
    (tasks : List HostTask) : w.Follows running (w.drain tasks).1 (w.drain tasks).2 := by
  have performed := performAll_follows truthful within tasks
  by_cases asked : .requestKeyframe ∈ tasks
  · rw [drain_of_mem asked]
    exact performed.trans ⟨rfl, truthful.keyframe _, id⟩
  · rw [drain_of_not_mem asked]
    exact performed

private theorem drain_singleton {task : HostTask} (other : task ≠ .requestKeyframe) :
    w.drain [task] = w.perform task := by
  have unasked : HostTask.requestKeyframe ∉ [task] := fun asked =>
    other (List.mem_singleton.mp asked).symm
  rw [drain_of_not_mem unasked, performAll_cons]
  exact Prod.ext (List.append_nil _) rfl

/-- Where the two agreed, a patch that is refused parts them, and nothing else does. -/
theorem perform_agrees_iff (truthful : Encoder.Truthful running) (within : w.rates.InBounds)
    (agrees : w.Agrees running) (task : HostTask) :
    (w.perform task).2.Agrees running ↔ ∀ p, .reconfigured p false ∉ (w.perform task).1 := by
  obtain ⟨believed, encoder, -⟩ := perform_follows truthful within task
  unfold Agrees at agrees ⊢
  rw [believed, encoder, agrees]
  rcases w.perform_cases task with ⟨nothing, -⟩ | ⟨p, -, offer, new, changed, -⟩
  · rw [nothing]
    exact iff_of_true rfl fun p => List.not_mem_nil
  · rw [offer]
    cases (Encoder.reconfigure w.encoder p).1 with
    | true =>
        refine iff_of_true rfl fun p' refused => ?_
        cases List.mem_singleton.mp refused
    | false =>
        refine iff_of_false (fun same => changed ?_) fun unrefused => unrefused p List.mem_cons_self
        exact new.trans same.symm

private theorem drain_singleton_agrees_iff (truthful : Encoder.Truthful running)
    (within : w.rates.InBounds) (agrees : w.Agrees running) (task : HostTask) :
    (w.drain [task]).2.Agrees running ↔ ∀ p, .reconfigured p false ∉ (w.drain [task]).1 := by
  by_cases asked : task = .requestKeyframe
  · rw [asked, drain_of_mem List.mem_cons_self]
    refine iff_of_true ((truthful.keyframe w.encoder).trans agrees) fun p refused => ?_
    cases List.mem_singleton.mp refused
  · rw [drain_singleton asked]
    exact perform_agrees_iff truthful within agrees task

/-- A request that is made again at once comes to nothing, whatever the encoder has answered. -/
theorem drain_request_again (w : HostWorker ε) (r : Wire.RateRequest) :
    (w.drain [.reconfigure r]).2.drain [.reconfigure r] = ([], (w.drain [.reconfigure r]).2) := by
  have other : HostTask.reconfigure r ≠ .requestKeyframe := nofun
  rw [drain_singleton other, drain_singleton other]
  have answered : plan (w.perform (.reconfigure r)).2.rates (.reconfigure r) =
      (none, (w.perform (.reconfigure r)).2.rates) := by
    rw [rates_perform]
    exact w.rates.reconfigure_again r
  rw [perform_of_none (congrArg Prod.fst answered), answered]

/-- **Refusals go unnoticed.** After any tasks, the controller and with it the throttle are where
all the patches lead that the encoder was offered, and the encoder where those lead that it
accepted. So rates that agreed still do if it accepted all of them. The next task parts them if and
only if it makes the encoder refuse a patch; and whatever the encoder answers to the patch for a
request, the same request again offers it nothing. -/
theorem refusals_go_unnoticed (truthful : Encoder.Truthful running)
    (reachable : w.rates.Reachable) (tied : w.throttle.target = w.rates.fps)
    (tasks : List HostTask) :
    let done := (w.drain tasks).1
    let w' := (w.drain tasks).2
    w'.believed = (offered done).foldl RatePatch.onto w.believed ∧
    w'.throttle.target = w'.rates.fps ∧
    running w'.encoder = (accepted done).foldl RatePatch.onto (running w.encoder) ∧
    (w.Agrees running → (∀ p, .reconfigured p false ∉ done) → w'.Agrees running) ∧
    (w'.Agrees running → ∀ task,
      (w'.drain [task]).2.Agrees running ↔ ∀ p, .reconfigured p false ∉ (w'.drain [task]).1) ∧
    ∀ r, let asked := (w'.drain [.reconfigure r]).2
      asked.drain [.reconfigure r] = ([], asked) := by
  intro done w'
  obtain ⟨believed, encoder, target⟩ := drain_follows truthful reachable.inBounds tasks
  have within : w'.rates.InBounds := by
    rw [w.rates_drain tasks]
    exact reachable.inBounds.afterTasks tasks
  refine ⟨believed, target tied, encoder, fun agreed all => ?_,
    drain_singleton_agrees_iff truthful within, w'.drain_request_again⟩
  unfold Agrees at agreed ⊢
  rw [believed, encoder, accepted_eq_offered all, agreed]

end HostWorker

/-- A lossless encoder that cannot do thirteen pictures a second. -/
structure FussyEncoder where
  inner : LosslessEncoder

namespace FussyEncoder

instance : Encoder FussyEncoder where
  ability e := Encoder.ability e.inner
  captureFormat e := Encoder.captureFormat e.inner
  encode e f := ((Encoder.encode e.inner f).1, ⟨(Encoder.encode e.inner f).2⟩)
  reconfigure e p :=
    if p.fps = some 13 then (false, e)
    else ((Encoder.reconfigure e.inner p).1, ⟨(Encoder.reconfigure e.inner p).2⟩)
  requestKeyframe e := ⟨Encoder.requestKeyframe e.inner⟩

/-- The rates this encoder really runs at. -/
def running (e : FussyEncoder) : Nat × Nat := e.inner.running

private theorem reconfigure_of_thirteen (e : FussyEncoder) {p : RatePatch}
    (thirteen : p.fps = some 13) :
    Encoder.reconfigure e p = (false, e) := if_pos thirteen

private theorem reconfigure_of_other (e : FussyEncoder) {p : RatePatch} (other : p.fps ≠ some 13) :
    Encoder.reconfigure e p = (true, ⟨e.inner.reconfigure p⟩) := if_neg other

private theorem truthful : Encoder.Truthful running where
  accepted e p positive accepted := by
    by_cases thirteen : p.fps = some 13
    · rw [reconfigure_of_thirteen e thirteen] at accepted
      cases accepted
    · rw [reconfigure_of_other e thirteen]
      exact LosslessEncoder.truthful.accepted e.inner p positive rfl
  refused e p refused := by
    by_cases thirteen : p.fps = some 13
    · rw [reconfigure_of_thirteen e thirteen]
    · rw [reconfigure_of_other e thirteen] at refused
      cases refused
  keyframe e := LosslessEncoder.truthful.keyframe e.inner

end FussyEncoder

namespace HostWorker

/-- A worker like `steadyStart`, but for the encoder. -/
def fussyStart : HostWorker FussyEncoder :=
  { steadyStart with encoder := ⟨steadyStart.encoder⟩ }

/-- A request for thirteen frames a second, which the fussy encoder refuses. -/
def thirteenAsked : HostTask := .reconfigure ⟨none, none, some 13⟩

/-- The refused request, asked for twice: the second time it is dropped as no change. -/
theorem thirteenAsked_goes_unnoticed :
    (Encoder.Truthful FussyEncoder.running ∧ fussyStart.rates.Reachable ∧
      fussyStart.throttle.target = fussyStart.rates.fps) ∧
    let asked := (fussyStart.drain [thirteenAsked]).2
    asked.believed = (10000000, 13) ∧ asked.throttle.target = 13 ∧
      FussyEncoder.running asked.encoder = (10000000, 30) ∧
      asked.drain [thirteenAsked] = ([], asked) := by
  have reachable : fussyStart.rates.Reachable := .new 10000000 20000000 30 {}
  obtain ⟨believed, target, encoder, -⟩ :=
    refusals_go_unnoticed FussyEncoder.truthful reachable rfl [thirteenAsked]
  obtain ⟨-, -, -, -, -, again⟩ :=
    refusals_go_unnoticed FussyEncoder.truthful reachable rfl []
  refine ⟨⟨FussyEncoder.truthful, reachable, rfl⟩, ?_⟩
  have refused : (fussyStart.drain [thirteenAsked]).1 = [.reconfigured ⟨none, some 13⟩ false] := rfl
  rw [refused] at believed encoder
  dsimp only at target ⊢
  refine ⟨believed, ?_, encoder, again ⟨none, none, some 13⟩⟩
  rw [target]
  exact congrArg Prod.snd believed

/-- The host believes in thirteen pictures a second, and the encoder still makes thirty. -/
theorem not_always_at_believed_rates :
    ¬∀ (ε : Type) [Encoder ε] (running : ε → Nat × Nat) (w : HostWorker ε) (tasks : List HostTask),
      Encoder.Truthful running → w.rates.Reachable → w.throttle.target = w.rates.fps →
        w.Agrees running → (w.drain tasks).2.Agrees running := by
  intro always
  have agrees := always FussyEncoder FussyEncoder.running fussyStart [thirteenAsked]
    FussyEncoder.truthful (.new 10000000 20000000 30 {}) rfl rfl
  have same : (10000000, 30) = (10000000, 13) := agrees
  exact absurd same (by decide)

end HostWorker

end Screencast
