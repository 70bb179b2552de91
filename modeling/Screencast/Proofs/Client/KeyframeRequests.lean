import Screencast.Proofs.Client.Interleaving
import Screencast.Proofs.History

/-! # Keyframes are asked for once

A frame that cannot be decoded raises a flag, and the next submitter that is answered takes it down
and is told to ask for a keyframe. Neither a closed pipeline nor a dead decoder comes between the
two, so an answer asks for a keyframe exactly if a frame has failed since the answer before it
(`Screencast.DecodeThreads.asked_once_for_failures`).
-/

namespace Screencast

namespace DecodeObservation

/-- A submitter was told what to do next. -/
def isAnswer : DecodeObservation → Bool
  | answered _ => true
  | _ => false

/-- A frame could not be decoded. -/
def isFailure : DecodeObservation → Bool
  | decoded _ answer => answer.status == .failed
  | _ => false

/-- A frame has failed, and no submitter was answered since. -/
def FailedSinceAnswer (seen : List DecodeObservation) : Prop :=
  (History.since isAnswer seen).any isFailure = true

instance (seen : List DecodeObservation) : Decidable (FailedSinceAnswer seen) :=
  inferInstanceAs (Decidable (_ = true))

variable {earlier between : List DecodeObservation}

private theorem failedSinceAnswer_append_of_unanswered
    (unanswered : ∀ o ∈ between, o.isAnswer = false) :
    FailedSinceAnswer (earlier ++ between) ↔
      FailedSinceAnswer earlier ∨ between.any isFailure = true := by
  unfold FailedSinceAnswer
  rw [History.since_append_of_unmarked _ unanswered, List.any_append, Bool.or_eq_true]

private theorem any_isFailure_of_failedSinceAnswer {action : SubmitAction}
    (failed : FailedSinceAnswer (earlier ++ answered action :: between)) :
    between.any isFailure = true := by
  unfold FailedSinceAnswer at failed
  rw [History.since_append_marked_cons earlier between rfl, List.any_eq_true] at failed
  obtain ⟨o, recent, failure⟩ := failed
  exact List.any_eq_true.mpr ⟨o, (History.since_suffix _ _).subset recent, failure⟩

end DecodeObservation

namespace ClientPipeline

private theorem keyframeNeeded_start (c : ClientPipeline) :
    c.start.2.keyframeNeeded = c.keyframeNeeded := by
  unfold start
  split
  · rfl
  · rfl

private theorem takeKeyframeNeeded_fst (c : ClientPipeline) :
    c.takeKeyframeNeeded.1 = .requestKeyframe ↔ c.keyframeNeeded = true := by
  unfold takeKeyframeNeeded
  cases c.keyframeNeeded with
  | true => exact iff_of_true rfl rfl
  | false => exact iff_of_false SubmitAction.noConfusion Bool.false_ne_true

/-- Whether the frame is taken makes no difference to the answer. -/
theorem submit_fst (c : ClientPipeline) (f : QueuedFrame) :
    (c.submit f).1 = .requestKeyframe ↔ c.keyframeNeeded = true := by
  unfold submit
  split
  · exact c.takeKeyframeNeeded_fst
  · exact (c.enqueue f).takeKeyframeNeeded_fst

end ClientPipeline

namespace DecodeThreads

open DecodeObservation

variable {δ : Type} {decode : δ → EncodedFrame → DecodedFrame × δ} {s s' : DecodeThreads δ}
  {seen new : List DecodeObservation}

/-- In a step nobody is answered, and the flag is raised exactly if a frame fails. -/
structure Raises (s s' : DecodeThreads δ) (new : List DecodeObservation) : Prop where
  unanswered : ∀ o ∈ new, o.isAnswer = false
  flag : s'.pipeline.keyframeNeeded = (s.pipeline.keyframeNeeded || new.any isFailure)

private theorem raises_unseen (same : s'.pipeline.keyframeNeeded = s.pipeline.keyframeNeeded) :
    Raises s s' [] where
  unanswered := fun _ among => absurd among List.not_mem_nil
  flag := same.trans (Bool.or_false _).symm

private theorem raises_decoded (f : QueuedFrame) (answer : DecodedFrame) (es : List ClientEvent)
    (flag : s'.pipeline.keyframeNeeded =
      (s.pipeline.keyframeNeeded || answer.status == .failed)) :
    Raises s s' (.decoded f answer :: es.map .emitted) where
  unanswered := by
    intro o among
    rcases List.mem_cons.mp among with rfl | event
    · rfl
    · obtain ⟨e, -, rfl⟩ := List.mem_map.mp event
      rfl
  flag := by
    have silent : (es.map emitted).any isFailure = false := by
      rw [List.any_map]
      exact List.any_eq_false.mpr fun _ _ => Bool.false_ne_true
    rw [flag, List.any_cons, silent, Bool.or_false]
    rfl

private theorem step_raises (s : DecodeThreads δ) (decode : δ → EncodedFrame → DecodedFrame × δ)
    {x : DecodeStep} (other : x ≠ .answer) :
    Raises s (s.step decode x).2 (s.step decode x).1 := by
  have idle : Raises s s [] := raises_unseen rfl
  cases x with
  | start =>
      simp only [step]
      apply raises_unseen
      split
      · rfl
      · exact s.pipeline.keyframeNeeded_start
  | offer f =>
      simp only [step]
      apply raises_unseen
      split
      · rfl
      · rfl
  | queue i =>
      simp only [step]
      cases s.admitted[i]? with
      | none => exact idle
      | some f => exact ⟨List.forall_mem_singleton.mpr rfl, (Bool.or_false _).symm⟩
  | answer => exact absurd rfl other
  | enter =>
      simp only [step]
      split
      · exact raises_unseen rfl
      · exact idle
  | take =>
      simp only [step]
      cases s.phase with
      | inside => exact raises_unseen rfl
      | outside | holding => exact idle
  | decode =>
      cases phase : s.phase with
      | outside | inside =>
          simp only [step, phase]
          exact idle
      | holding f =>
          rcases decoded : decode s.decoder f.frame with ⟨answer, decoder⟩
          cases fatal : answer.status.isFatal with
          | false =>
              obtain ⟨slot, stats, stepped⟩ := step_decode_of_alive phase decoded fatal
              rw [stepped]
              exact raises_decoded f answer [] rfl
          | true =>
              rw [step_decode_of_fatal phase decoded fatal]
              apply raises_decoded
              have otherwise : (answer.status == .failed) = false := by
                cases status : answer.status with
                | ok | eAgain | needReset => rfl
                | failed =>
                    rw [status] at fatal
                    cases fatal
              rw [otherwise, Bool.or_false]
  | close => exact raises_unseen rfl
  | stop =>
      simp only [step]
      split
      · exact raises_unseen rfl
      · exact idle

/-- The flag is up exactly if a frame has failed since the last answer, and all answers were given
by it. -/
structure Asks (s : DecodeThreads δ) (seen : List DecodeObservation) : Prop where
  flag : s.pipeline.keyframeNeeded = true ↔ FailedSinceAnswer seen
  answers : ∀ earlier action later, seen = earlier ++ answered action :: later →
    (action = .requestKeyframe ↔ FailedSinceAnswer earlier)

private theorem asks_fresh (instanceId : Nat) (n : Negotiated) (decoder : δ) :
    (fresh instanceId n decoder).Asks [] where
  flag := iff_of_false Bool.false_ne_true Bool.false_ne_true
  answers := by
    intro earlier action later split
    exact absurd split.symm (List.append_ne_nil_of_right_ne_nil earlier (List.cons_ne_nil _ _))

/-- An observation that raises the flag exactly for a failure keeps it in step with the record. -/
theorem Asks.raise (asks : s.Asks seen) (raises : Raises s s' new) : s'.Asks (seen ++ new) where
  flag := by
    rw [raises.flag, Bool.or_eq_true, asks.flag,
      failedSinceAnswer_append_of_unanswered raises.unanswered]
  answers := by
    intro earlier action later split
    rcases History.split_of_append split with ⟨rest, whole⟩ | ⟨before, whole, -⟩
    · exact asks.answers earlier action rest whole
    · have among : answered action ∈ new := whole ▸ List.mem_append_cons_self
      exact absurd (raises.unanswered _ among) (Bool.false_ne_true ∘ Eq.symm)

/-- Whoever is answered is told of the flag, and takes it down. -/
theorem Asks.answer (asks : s.Asks seen) :
    Asks { s with pipeline := s.pipeline.takeKeyframeNeeded.2 }
      (seen ++ [answered s.pipeline.takeKeyframeNeeded.1]) where
  flag := by
    refine iff_of_false Bool.false_ne_true fun failed => ?_
    exact absurd (any_isFailure_of_failedSinceAnswer failed) Bool.false_ne_true
  answers := by
    intro earlier action later split
    rcases History.split_of_append split with ⟨rest, whole⟩ | ⟨before, whole, rfl⟩
    · exact asks.answers earlier action rest whole
    · cases before with
      | nil =>
          obtain ⟨same, -⟩ := List.cons.inj whole
          obtain rfl := answered.inj same
          rw [List.append_nil, ← asks.flag]
          exact s.pipeline.takeKeyframeNeeded_fst
      | cons first before =>
          exact absurd (List.cons.inj whole).2.symm
            (List.append_ne_nil_of_right_ne_nil before (List.cons_ne_nil _ _))

/-- One step keeps the flag in step with what has been seen. -/
theorem Asks.step (asks : s.Asks seen) (decode : δ → EncodedFrame → DecodedFrame × δ)
    (x : DecodeStep) : (s.step decode x).2.Asks (seen ++ (s.step decode x).1) := by
  by_cases answers : x = .answer
  · subst answers
    exact asks.answer
  · exact asks.raise (s.step_raises decode answers)

/-- The flag tells whoever submits a frame now. -/
theorem Asks.submit_fst (asks : s.Asks seen) (f : QueuedFrame) :
    (s.pipeline.submit f).1 = .requestKeyframe ↔ FailedSinceAnswer seen := by
  rw [← asks.flag]
  exact s.pipeline.submit_fst f

/-- **A keyframe is asked for once after frames have failed.** However submissions, the decode
thread and a stop come between each other, and whatever the decoder answers, a submission is told to
ask for a keyframe exactly if a frame has failed to decode since the answer to a submission before
it, or since the pipeline was created; whether the pipeline is still open does not matter. So
between two requests there is a new failure, and the first answer after a failure is a request. -/
theorem asked_once_for_failures (decode : δ → EncodedFrame → DecodedFrame × δ) (instanceId : Nat)
    (n : Negotiated) (decoder : δ) (steps : List DecodeStep) :
    let seen := ((fresh instanceId n decoder).run decode steps).1
    let s := ((fresh instanceId n decoder).run decode steps).2
    (∀ f, (s.pipeline.submit f).1 = .requestKeyframe ↔ FailedSinceAnswer seen) ∧
    (∀ earlier action later, seen = earlier ++ answered action :: later →
      (action = .requestKeyframe ↔ FailedSinceAnswer earlier)) ∧
    (∀ earlier between later,
      seen = earlier ++ answered .requestKeyframe ::
        (between ++ answered .requestKeyframe :: later) →
      ∃ o ∈ between, o.isFailure = true) ∧
    ∀ earlier failure between action later,
      seen = earlier ++ failure :: (between ++ answered action :: later) →
      failure.isFailure = true → (∀ o ∈ between, o.isAnswer = false) →
        action = .requestKeyframe := by
  intro seen s
  have asks : s.Asks seen :=
    run_invariant Asks (fun x asks => asks.step decode x) (asks_fresh instanceId n decoder) steps
  refine ⟨asks.submit_fst, asks.answers, ?_, ?_⟩
  · intro earlier between later split
    rw [← List.cons_append, ← List.append_assoc] at split
    exact List.any_eq_true.mp
      (any_isFailure_of_failedSinceAnswer ((asks.answers _ _ later split).mp rfl))
  · intro earlier failure between action later split failed unanswered
    rw [← List.cons_append, ← List.append_assoc] at split
    refine (asks.answers _ action later split).mpr ?_
    rw [failedSinceAnswer_append_of_unanswered]
    · exact .inr (List.any_eq_true.mpr ⟨failure, List.mem_cons_self, failed⟩)
    · refine List.forall_mem_cons.mpr ⟨?_, unanswered⟩
      cases failure with
      | answered => cases failed
      | accepted | decoded | emitted => rfl

end DecodeThreads

end Screencast
