import Screencast.Proofs.Client.Interleaving

/-! # What reaches the decoder

Frames are decoded in the order in which they were accepted, and none is left out: as long as the
decode thread may take a frame, what has been decoded, what the thread holds and what waits make up
all that was accepted. The queue is only ever cleared when no more frames can be taken, because the
pipeline was stopped or the decoder is dead. A dead decoder is reported once, and nothing is decoded
after that (`Screencast.DecodeThreads.decoded_in_order`).
-/

namespace Screencast

namespace ClientPipeline

private theorem start_of_created {c : ClientPipeline} (created : c.state = .created) :
    c.start.2 =
      { c with state := .running, running := true, decoding := true, rendering := true } := by
  simp only [start, created, Lifecycle.start]

private theorem start_of_not_created {c : ClientPipeline} (used : c.state ≠ .created) :
    c.start.2 = c := by
  unfold start
  cases state : c.state with
  | created => exact absurd state used
  | running | stopped => rfl

end ClientPipeline

namespace DecodeThreads

open DecodeObservation

variable {δ : Type}

/-- The decode thread may still take a frame: it is to be started, or has looked whether to go on
already, or will find that it goes on. -/
def MayTake (s : DecodeThreads δ) : Prop :=
  s.pipeline.state = .created ∨ s.phase = .inside ∨
    s.pipeline.running = true ∧ s.pipeline.decoding = true

/-- What has been decoded is what was accepted, in order, as far as it goes. -/
structure InOrder (s : DecodeThreads δ) (decoded accepted : List QueuedFrame) : Prop where
  started : s.pipeline.decoding = true ∨ s.phase ≠ .outside → s.pipeline.state ≠ .created
  opened : s.pipeline.closed = false →
    s.pipeline.state = .created ∨ s.pipeline.running = true ∧ s.pipeline.decoding = true
  ordered : decoded ++ s.phase.held <+: accepted
  complete : s.MayTake → decoded ++ s.phase.held ++ s.pipeline.queue = accepted

variable {s s' : DecodeThreads δ} {decoded accepted : List QueuedFrame}

private theorem inOrder_fresh (instanceId : Nat) (n : Negotiated) (decoder : δ) :
    (fresh instanceId n decoder).InOrder [] [] where
  started := by
    rintro (decoding | busy)
    · cases decoding
    · exact absurd rfl busy
  opened := fun _ => .inl rfl
  ordered := List.prefix_rfl
  complete := fun _ => rfl

/-- The order is kept where no frame moves, unless the decode thread could take a frame again. -/
theorem InOrder.unmoved (inOrder : s.InOrder decoded accepted)
    (started : s'.pipeline.decoding = true ∨ s'.phase ≠ .outside → s'.pipeline.state ≠ .created)
    (opened : s'.pipeline.closed = false →
      s'.pipeline.state = .created ∨ s'.pipeline.running = true ∧ s'.pipeline.decoding = true)
    (held : s'.phase.held = s.phase.held)
    (mayTake : s'.MayTake → s.MayTake ∧ s'.pipeline.queue = s.pipeline.queue) :
    s'.InOrder decoded accepted where
  started := started
  opened := opened
  ordered := by
    rw [held]
    exact inOrder.ordered
  complete := by
    intro may
    obtain ⟨before, queue⟩ := mayTake may
    rw [held, queue]
    exact inOrder.complete before

/-- Starting the thread consumes nothing: what is queued stays next in line. -/
theorem InOrder.start (inOrder : s.InOrder decoded accepted) :
    InOrder { s with pipeline := s.pipeline.start.2 } decoded accepted := by
  by_cases created : s.pipeline.state = .created
  · rw [ClientPipeline.start_of_created created]
    apply inOrder.unmoved
    · intro _ created
      cases created
    · exact fun _ => .inr ⟨rfl, rfl⟩
    · rfl
    · exact fun _ => ⟨.inl created, rfl⟩
  · rw [ClientPipeline.start_of_not_created created]
    exact inOrder

/-- Entering the loop leaves the queue and the record as they are. -/
theorem InOrder.enter (inOrder : s.InOrder decoded accepted) (outside : s.phase = .outside)
    (running : s.pipeline.running = true) (decoding : s.pipeline.decoding = true) :
    InOrder { s with phase := .inside } decoded accepted := by
  have used := inOrder.started (.inl decoding)
  apply inOrder.unmoved
  · exact fun _ => used
  · exact inOrder.opened
  · rw [outside]
    rfl
  · exact fun _ => ⟨.inr (.inr ⟨running, decoding⟩), rfl⟩

/-- A closed pipeline still holds what it had taken in. -/
theorem InOrder.close (inOrder : s.InOrder decoded accepted) :
    InOrder { s with pipeline := { s.pipeline with running := false, closed := true } }
      decoded accepted := by
  apply inOrder.unmoved
  · exact inOrder.started
  · intro opened
    cases opened
  · rfl
  · rintro (created | inside | ⟨running, _⟩)
    · exact ⟨.inl created, rfl⟩
    · exact ⟨.inr (.inl inside), rfl⟩
    · cases running

/-- A stop clears the queue, but no frame is taken after it. -/
theorem InOrder.stop (inOrder : s.InOrder decoded accepted) (outside : s.phase = .outside) :
    InOrder { s with pipeline := s.pipeline.stop } decoded accepted := by
  apply inOrder.unmoved
  · intro _ created
    cases created
  · intro opened
    cases opened
  · rfl
  · rintro (created | inside | ⟨running, _⟩)
    · cases created
    · rw [show s.phase = .inside from inside] at outside
      cases outside
    · cases running

/-- A frame taken in is the last of what is accepted, behind whatever waits. -/
theorem InOrder.queue (inOrder : s.InOrder decoded accepted) (f : QueuedFrame)
    (admitted : List QueuedFrame) :
    InOrder { s with pipeline := s.pipeline.enqueue f, admitted } decoded (accepted ++ [f]) where
  started := inOrder.started
  opened := inOrder.opened
  ordered := inOrder.ordered.trans (List.prefix_append _ _)
  complete := by
    intro may
    rw [← inOrder.complete may, List.append_assoc _ s.pipeline.queue]
    rfl

/-- The frame taken out is the first that waits, so the decoded ones stay a beginning of the
accepted ones. -/
theorem InOrder.take (inOrder : s.InOrder decoded accepted) (inside : s.phase = .inside) :
    InOrder
      { s with pipeline := s.pipeline.pop.2, phase := s.pipeline.pop.1.elim .outside .holding }
      decoded accepted := by
  have used : s.pipeline.state ≠ .created := by
    apply inOrder.started
    rw [inside]
    exact .inr DecodePhase.noConfusion
  have whole := inOrder.complete (.inr (.inl inside))
  rw [inside, DecodePhase.held, List.append_nil] at whole
  unfold ClientPipeline.pop
  cases queue : s.pipeline.queue with
  | nil =>
      rw [queue] at whole
      exact {
        started := fun _ => used
        opened := inOrder.opened
        ordered := by
          rw [← whole]
          exact List.prefix_rfl
        complete := by
          intro _
          rw [← whole]
          exact List.append_nil _ }
  | cons f rest =>
      rw [queue] at whole
      exact {
        started := fun _ => used
        opened := inOrder.opened
        ordered := by
          rw [← whole, List.append_cons]
          exact List.prefix_append _ _
        complete := by
          intro _
          rw [← whole, List.append_cons]
          rfl }

/-- Decoding the frame that the thread holds keeps the order, whatever it leads to, unless the
thread goes on with another queue. -/
theorem InOrder.decode (inOrder : s.InOrder decoded accepted) {f : QueuedFrame}
    (holding : s.phase = .holding f) (pipeline : ClientPipeline) (decoder : δ)
    (state : pipeline.state = s.pipeline.state)
    (opened : pipeline.closed = false →
      s.pipeline.closed = false ∧ pipeline.running = s.pipeline.running ∧
        pipeline.decoding = s.pipeline.decoding)
    (goesOn : pipeline.running = true ∧ pipeline.decoding = true →
      (s.pipeline.running = true ∧ s.pipeline.decoding = true) ∧
        pipeline.queue = s.pipeline.queue) :
    InOrder { s with pipeline, decoder, phase := .outside } (decoded ++ [f]) accepted := by
  have used : s.pipeline.state ≠ .created := by
    apply inOrder.started
    rw [holding]
    exact .inr DecodePhase.noConfusion
  have taken : s.phase.held = [f] := by
    rw [holding]
    rfl
  exact {
    started := by
      intro _
      rwa [state]
    opened := by
      intro unclosed
      obtain ⟨before, running, decoding⟩ := opened unclosed
      rw [running, decoding, state]
      exact inOrder.opened before
    ordered := by
      have before := inOrder.ordered
      rw [taken] at before
      rw [DecodePhase.held, List.append_nil]
      exact before
    complete := by
      rintro (created | inside | live)
      · exact absurd (state.symm.trans created) used
      · cases inside
      · obtain ⟨before, queue⟩ := goesOn live
        have whole := inOrder.complete (.inr (.inr before))
        rw [taken] at whole
        rw [queue, DecodePhase.held, List.append_nil]
        exact whole }

/-- A step keeps the order of the frames. -/
theorem InOrder.step {seen : List DecodeObservation}
    (inOrder : s.InOrder (decodedFrames seen) (acceptedFrames seen))
    (decode : δ → EncodedFrame → DecodedFrame × δ) (x : DecodeStep) :
    (s.step decode x).2.InOrder (decodedFrames (seen ++ (s.step decode x).1))
      (acceptedFrames (seen ++ (s.step decode x).1)) := by
  rw [decodedFrames_append, acceptedFrames_append]
  have idle : s.InOrder (decodedFrames seen ++ []) (acceptedFrames seen ++ []) := by
    rwa [List.append_nil, List.append_nil]
  -- Accepted frames move in `queue`, `take` and `decode` only.
  cases x with
  | start =>
      simp only [DecodeThreads.step]
      by_cases closed : s.pipeline.closed = true
      · rw [if_pos closed]
        exact idle
      · rw [if_neg closed]
        exact idle.start
  | offer f =>
      simp only [DecodeThreads.step]
      by_cases closed : s.pipeline.closed = true
      · rw [if_pos closed]
        exact idle
      · rw [if_neg closed]
        exact ⟨idle.started, idle.opened, idle.ordered, idle.complete⟩
  | queue i =>
      simp only [DecodeThreads.step]
      cases s.admitted[i]? with
      | none => exact idle
      | some f =>
          have queued := inOrder.queue f (s.admitted.eraseIdx i)
          rwa [← List.append_nil (decodedFrames seen)] at queued
  | answer => exact ⟨idle.started, idle.opened, idle.ordered, idle.complete⟩
  | enter =>
      simp only [DecodeThreads.step]
      by_cases goesOn : s.phase = .outside ∧ s.pipeline.running ∧ s.pipeline.decoding
      · rw [if_pos goesOn]
        exact idle.enter goesOn.1 goesOn.2.1 goesOn.2.2
      · rw [if_neg goesOn]
        exact idle
  | take =>
      simp only [DecodeThreads.step]
      cases phase : s.phase with
      | inside => exact idle.take phase
      | outside | holding => exact idle
  | decode =>
      cases phase : s.phase with
      | outside | inside =>
          simp only [DecodeThreads.step, phase]
          exact idle
      | holding f =>
          rw [← List.append_nil (acceptedFrames seen)] at inOrder
          rcases decoded : decode s.decoder f.frame with ⟨answer, decoder⟩
          cases fatal : answer.status.isFatal with
          | false =>
              obtain ⟨slot, stats, stepped⟩ := step_decode_of_alive phase decoded fatal
              rw [stepped, decodedFrames_decoded, acceptedFrames_decoded]
              refine inOrder.decode phase _ decoder ?_ ?_ ?_
              · rfl
              · exact fun opened => ⟨opened, rfl, rfl⟩
              · exact fun goesOn => ⟨goesOn, rfl⟩
          | true =>
              rw [step_decode_of_fatal phase decoded fatal, decodedFrames_decoded,
                acceptedFrames_decoded]
              refine inOrder.decode phase _ decoder ?_ ?_ ?_
              · rfl
              · intro opened
                cases opened
              · intro goesOn
                cases goesOn.2
  | close => exact idle.close
  | stop =>
      simp only [DecodeThreads.step]
      by_cases outside : s.phase = .outside
      · rw [if_pos outside]
        exact idle.stop outside
      · rw [if_neg outside]
        exact idle

/-- The decode thread has left its loop for good. -/
def Ended (s : DecodeThreads δ) : Prop :=
  s.pipeline.state ≠ .created ∧ s.pipeline.decoding = false ∧ s.phase = .outside

/-- A dead decoder has been reported exactly if there was one, and then the thread has ended. -/
structure Reporting (s : DecodeThreads δ) (instanceId : Nat) (seen : List DecodeObservation) :
    Prop where
  listening : s.pipeline.listening = true
  sameInstance : s.pipeline.instanceId = instanceId
  reported : events seen = (fatalStatuses seen).map fun status =>
    .resetRequested instanceId (.decodeFatal status)
  once : (events seen).length ≤ 1
  ended : events seen ≠ [] → s.Ended
  quiet : seen.Pairwise fun earlier later =>
    ∀ e f answer, earlier = .emitted e → later ≠ .decoded f answer

variable {instanceId : Nat} {seen new : List DecodeObservation}

private theorem reporting_fresh (instanceId : Nat) (n : Negotiated) (decoder : δ) :
    (fresh instanceId n decoder).Reporting instanceId [] where
  listening := rfl
  sameInstance := rfl
  reported := rfl
  once := Nat.zero_le 1
  ended := fun event => absurd rfl event
  quiet := .nil

/-- What is seen of a step in which nothing is decoded, and what the step keeps. -/
structure Uneventful (s s' : DecodeThreads δ) (new : List DecodeObservation) : Prop where
  listening : s'.pipeline.listening = s.pipeline.listening
  sameInstance : s'.pipeline.instanceId = s.pipeline.instanceId
  ended : s.Ended → s'.Ended
  undecoded : ∀ f answer, .decoded f answer ∉ new
  unsent : ∀ e, .emitted e ∉ new

private theorem uneventful_unseen (listening : s'.pipeline.listening = s.pipeline.listening)
    (sameInstance : s'.pipeline.instanceId = s.pipeline.instanceId)
    (ended : s.Ended → s'.Ended) : Uneventful s s' [] where
  listening := listening
  sameInstance := sameInstance
  ended := ended
  undecoded := fun _ _ => List.not_mem_nil
  unsent := fun _ => List.not_mem_nil

private theorem step_uneventful (s : DecodeThreads δ) (decode : δ → EncodedFrame → DecodedFrame × δ)
    (x : DecodeStep) (elsewhere : x = .decode → ∀ f, s.phase ≠ .holding f) :
    Uneventful s (s.step decode x).2 (s.step decode x).1 := by
  have idle : Uneventful s s [] := uneventful_unseen rfl rfl id
  cases x with
  | start =>
      simp only [DecodeThreads.step]
      by_cases closed : s.pipeline.closed = true
      · rw [if_pos closed]
        exact idle
      · rw [if_neg closed]
        by_cases created : s.pipeline.state = .created
        · rw [ClientPipeline.start_of_created created]
          exact uneventful_unseen rfl rfl fun ended => absurd created ended.1
        · rw [ClientPipeline.start_of_not_created created]
          exact idle
  | offer f =>
      simp only [DecodeThreads.step]
      by_cases closed : s.pipeline.closed = true
      · rw [if_pos closed]
        exact idle
      · rw [if_neg closed]
        exact uneventful_unseen rfl rfl id
  | queue i =>
      simp only [DecodeThreads.step]
      cases s.admitted[i]? with
      | none => exact idle
      | some f => exact ⟨rfl, rfl, id, by simp, by simp⟩
  | answer => exact ⟨rfl, rfl, id, by simp [DecodeThreads.step], by simp [DecodeThreads.step]⟩
  | enter =>
      simp only [DecodeThreads.step]
      by_cases goesOn : s.phase = .outside ∧ s.pipeline.running ∧ s.pipeline.decoding
      · rw [if_pos goesOn]
        refine uneventful_unseen rfl rfl fun ended => ?_
        exact absurd goesOn.2.2 (Bool.eq_false_iff.mp ended.2.1)
      · rw [if_neg goesOn]
        exact idle
  | take =>
      simp only [DecodeThreads.step]
      cases phase : s.phase with
      | inside =>
          refine uneventful_unseen rfl rfl fun ended => ?_
          exact absurd (phase.symm.trans ended.2.2) DecodePhase.noConfusion
      | outside | holding => exact idle
  | decode =>
      simp only [DecodeThreads.step]
      cases phase : s.phase with
      | outside | inside => exact idle
      | holding f => exact absurd phase (elsewhere rfl f)
  | close => exact uneventful_unseen rfl rfl id
  | stop =>
      simp only [DecodeThreads.step]
      by_cases outside : s.phase = .outside
      · rw [if_pos outside]
        refine uneventful_unseen rfl rfl fun _ => ?_
        exact ⟨Lifecycle.noConfusion, rfl, outside⟩
      · rw [if_neg outside]
        exact idle

private theorem Reporting.uneventful (reporting : s.Reporting instanceId seen)
    (uneventful : Uneventful s s' new) : s'.Reporting instanceId (seen ++ new) := by
  have unsent : events new = [] := by
    refine List.filterMap_eq_nil_iff.mpr fun o member => ?_
    cases o with
    | emitted e => exact absurd member (uneventful.unsent e)
    | _ => rfl
  have undecoded : fatalStatuses new = [] := by
    refine List.filterMap_eq_nil_iff.mpr fun o member => ?_
    cases o with
    | decoded f answer => exact absurd member (uneventful.undecoded f answer)
    | _ => rfl
  have sameEvents : events (seen ++ new) = events seen := by
    rw [events_append, unsent, List.append_nil]
  exact {
    listening := uneventful.listening.trans reporting.listening
    sameInstance := uneventful.sameInstance.trans reporting.sameInstance
    reported := by
      rw [sameEvents, fatalStatuses_append, undecoded, List.append_nil]
      exact reporting.reported
    once := by
      rw [sameEvents]
      exact reporting.once
    ended := by
      rw [sameEvents]
      exact fun event => uneventful.ended (reporting.ended event)
    quiet := by
      refine List.pairwise_append.mpr ⟨reporting.quiet, ?_, ?_⟩
      · refine List.Pairwise.imp_of_mem ?_ (List.pairwise_of_forall fun _ _ => trivial)
        intro earlier later _ member _ e f answer _ same
        exact uneventful.undecoded f answer (same ▸ member)
      · intro earlier _ later member e f answer _ same
        exact uneventful.undecoded f answer (same ▸ member) }

/-- A thread that decodes has not ended, so what it reports is the first that is reported. -/
theorem Reporting.decode (reporting : s.Reporting instanceId seen) (working : ¬s.Ended)
    (listening : s'.pipeline.listening = s.pipeline.listening)
    (sameInstance : s'.pipeline.instanceId = s.pipeline.instanceId) (f : QueuedFrame)
    {answer : DecodedFrame} {es : List ClientEvent}
    (reports : es = if answer.status.isFatal then
      [.resetRequested instanceId (.decodeFatal answer.status)] else [])
    (ended : answer.status.isFatal = true → s'.Ended) :
    s'.Reporting instanceId (seen ++ .decoded f answer :: es.map .emitted) := by
  have silent : events seen = [] :=
    Decidable.byContradiction fun event => working (reporting.ended event)
  have healthy : fatalStatuses seen = [] := by
    have reported := reporting.reported
    rw [silent] at reported
    exact List.map_eq_nil_iff.mp reported.symm
  have allEvents : events (seen ++ .decoded f answer :: es.map .emitted) = es := by
    rw [events_append, silent, events_decoded, List.nil_append]
  exact {
    listening := listening.trans reporting.listening
    sameInstance := sameInstance.trans reporting.sameInstance
    reported := by
      rw [allEvents, fatalStatuses_append, healthy, fatalStatuses_decoded, reports]
      cases answer.status.isFatal <;> rfl
    once := by
      rw [allEvents, reports]
      cases answer.status.isFatal with
      | true => exact Nat.le_refl 1
      | false => exact Nat.zero_le 1
    ended := by
      rw [allEvents, reports]
      intro event
      cases fatal : answer.status.isFatal with
      | true => exact ended fatal
      | false =>
          rw [fatal] at event
          exact absurd rfl event
    quiet := by
      refine List.pairwise_append.mpr ⟨reporting.quiet, List.pairwise_cons.mpr ⟨?_, ?_⟩, ?_⟩
      · intro later _ e f' answer' emission
        cases emission
      · refine List.pairwise_map.mpr (List.pairwise_of_forall ?_)
        intro _ _ e f' answer' _ decoding
        cases decoding
      · intro earlier member later _ e f' answer' emission
        have sent : e ∈ events seen :=
          List.mem_filterMap.mpr ⟨.emitted e, emission ▸ member, rfl⟩
        rw [silent] at sent
        cases sent }

/-- One step keeps the account of the statuses: a fatal one is reported once, and nothing follows
it. -/
theorem Reporting.step (reporting : s.Reporting instanceId seen)
    (inOrder : s.InOrder decoded accepted) (decode : δ → EncodedFrame → DecodedFrame × δ)
    (x : DecodeStep) : (s.step decode x).2.Reporting instanceId (seen ++ (s.step decode x).1) := by
  by_cases decodes : x = .decode ∧ ∃ f, s.phase = .holding f
  · obtain ⟨rfl, f, holding⟩ := decodes
    have working : ¬s.Ended := by
      intro ended
      exact absurd (holding.symm.trans ended.2.2) DecodePhase.noConfusion
    have used : s.pipeline.state ≠ .created := by
      apply inOrder.started
      rw [holding]
      exact .inr DecodePhase.noConfusion
    rcases decoded : decode s.decoder f.frame with ⟨answer, decoder⟩
    cases fatal : answer.status.isFatal with
    | false =>
        obtain ⟨slot, stats, stepped⟩ := step_decode_of_alive holding decoded fatal
        rw [stepped]
        refine reporting.decode working ?_ ?_ f ?_ ?_
        · rfl
        · rfl
        · rw [fatal]
          rfl
        · exact fun dead => absurd dead (Bool.eq_false_iff.mp fatal)
    | true =>
        rw [step_decode_of_fatal holding decoded fatal]
        refine reporting.decode working ?_ ?_ f ?_ ?_
        · rfl
        · rfl
        · rw [fatal, ClientPipeline.emit, reporting.listening, reporting.sameInstance]
        · exact fun _ => ⟨used, rfl, rfl⟩
  · apply reporting.uneventful
    apply step_uneventful
    intro decoding f holding
    exact decodes ⟨decoding, f, holding⟩

private theorem keeps_run (inOrder : s.InOrder (decodedFrames seen) (acceptedFrames seen))
    (reporting : s.Reporting instanceId seen) (decode : δ → EncodedFrame → DecodedFrame × δ)
    (steps : List DecodeStep) :
    let seen' := seen ++ (s.run decode steps).1
    (s.run decode steps).2.InOrder (decodedFrames seen') (acceptedFrames seen') ∧
      (s.run decode steps).2.Reporting instanceId seen' :=
  run_invariant
    (fun s seen => s.InOrder (decodedFrames seen) (acceptedFrames seen) ∧
      s.Reporting instanceId seen)
    (fun x both => ⟨both.1.step decode x, both.2.step both.1 decode x⟩) ⟨inOrder, reporting⟩ steps

/-- **Frames are decoded in the order of their acceptance, up to the first dead decoder.** However
the steps of submitters, of the decode thread and of a stop follow each other, and whatever the
decoder answers, the frames decoded are the first ones of those accepted, each once; while the
pipeline is open, only the frame in the thread's hands and those that wait are missing. A reset is
requested exactly for a dead decoder, with this instance and the decoder's answer, at most once, and
nothing is decoded after it. -/
theorem decoded_in_order (decode : δ → EncodedFrame → DecodedFrame × δ) (instanceId : Nat)
    (n : Negotiated) (decoder : δ) (steps : List DecodeStep) :
    let seen := ((fresh instanceId n decoder).run decode steps).1
    let s := ((fresh instanceId n decoder).run decode steps).2
    decodedFrames seen <+: acceptedFrames seen ∧
    (s.pipeline.closed = false →
      decodedFrames seen ++ s.phase.held ++ s.pipeline.queue = acceptedFrames seen) ∧
    events seen = (fatalStatuses seen).map (fun status =>
      .resetRequested instanceId (.decodeFatal status)) ∧
    (events seen).length ≤ 1 ∧
    seen.Pairwise fun earlier later =>
      ∀ e f answer, earlier = .emitted e → later ≠ .decoded f answer := by
  have start : (fresh instanceId n decoder).InOrder (decodedFrames []) (acceptedFrames []) :=
    inOrder_fresh instanceId n decoder
  obtain ⟨inOrder, reporting⟩ :=
    keeps_run start (reporting_fresh instanceId n decoder) decode steps
  rw [List.nil_append] at inOrder reporting
  refine ⟨(List.prefix_append _ _).trans inOrder.ordered, ?_, reporting.reported, reporting.once,
    reporting.quiet⟩
  intro opened
  rcases inOrder.opened opened with created | live
  · exact inOrder.complete (.inl created)
  · exact inOrder.complete (.inr (.inr live))

end DecodeThreads

end Screencast
