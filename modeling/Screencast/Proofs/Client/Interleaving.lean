import Screencast.Client.Decoding

/-! # Threads that work on one pipeline

Submitters, the decode thread and the owner work on a pipeline at the same time. A submitter looks
whether the pipeline is closed, and queues its frame later. The decode thread looks whether to go
on, takes a frame later and decodes it later still. A stop closes the pipeline first, and clears it
once the decode thread has left the body of its loop. A run is any order of such steps.

When nobody comes in between, the steps of a submission are a submission
(`Screencast.DecodeThreads.run_submission`), and those of the decode thread are one turn of its loop
(`Screencast.DecodeThreads.run_turn`).
-/

namespace Screencast

/-- Takes the oldest frame that waits, without a look at whether to go on. -/
def ClientPipeline.pop (c : ClientPipeline) : Option QueuedFrame × ClientPipeline :=
  (c.queue.head?, { c with queue := c.queue.drop 1 })

/-- Before it takes a frame, the loop looks whether the pipeline still runs; the rest is a plain
pop. -/
theorem ClientPipeline.takeNext_eq_pop (c : ClientPipeline) :
    c.takeNext = if c.running && c.decoding then c.pop else (none, c) := rfl

namespace ClientPipeline

/-- After a status that is not fatal, only the slot, the statistics and the wish for a keyframe
change. -/
theorem react_of_alive (c : ClientPipeline) (f : QueuedFrame) {answer : DecodedFrame}
    (alive : answer.status.isFatal = false) :
    ∃ slot stats, c.react f answer = ([], { c with
      slot, stats, keyframeNeeded := c.keyframeNeeded || answer.status == .failed }) := by
  obtain ⟨status, resource⟩ := answer
  cases status with
  | ok =>
      have unchanged : (c.keyframeNeeded || DecodeStatus.ok == .failed) = c.keyframeNeeded :=
        Bool.or_false _
      rw [unchanged]
      cases resource with
      | none => exact ⟨_, _, rfl⟩
      | some r => exact ⟨_, _, rfl⟩
  | failed =>
      have needed : (c.keyframeNeeded || DecodeStatus.failed == .failed) = true := Bool.or_true _
      rw [needed]
      exact ⟨_, _, rfl⟩
  | eAgain | needReset => cases alive

/-- A fatal status makes the loop give up. -/
theorem react_of_fatal (c : ClientPipeline) (f : QueuedFrame) {answer : DecodedFrame}
    (fatal : answer.status.isFatal = true) : c.react f answer = c.abandon answer.status := by
  obtain ⟨status, resource⟩ := answer
  cases status with
  | ok | failed => cases fatal
  | eAgain | needReset => rfl

end ClientPipeline

/-- Where the decode thread stands. -/
inductive DecodePhase
  /-- It has yet to look whether to go on, or is not in its loop. -/
  | outside
  /-- It goes on, and has not taken a frame yet. -/
  | inside
  | holding (f : QueuedFrame)
deriving DecidableEq, Repr

/-- The frame that the decode thread has taken and not decoded yet. -/
def DecodePhase.held : DecodePhase → List QueuedFrame
  | .holding f => [f]
  | .outside | .inside => []

/-- A pipeline and its decoder while threads work on them. -/
structure DecodeThreads (δ : Type) where
  pipeline : ClientPipeline
  decoder : δ
  phase : DecodePhase := .outside
  /-- Frames whose submitters found the pipeline open and have not queued them yet. -/
  admitted : List QueuedFrame := []

/-- A step of one of the threads. -/
inductive DecodeStep
  | start
  /-- A submitter looks whether the pipeline is closed; if it is, the frame is dropped. -/
  | offer (f : QueuedFrame)
  /-- A submitter queues its frame, one of those admitted. -/
  | queue (i : Nat)
  /-- A submitter is told whether a keyframe is needed. -/
  | answer
  /-- The decode thread looks whether to go on. -/
  | enter
  | take
  /-- The decode thread decodes the frame that it has taken, and reacts. -/
  | decode
  /-- The first half of a stop, which waits for nobody. -/
  | close
  /-- The whole of a stop, or its second half; it waits for the decode thread. -/
  | stop
deriving DecidableEq, Repr

/-- What can be seen of the threads' work. -/
inductive DecodeObservation
  | accepted (f : QueuedFrame)
  | answered (action : SubmitAction)
  | decoded (f : QueuedFrame) (answer : DecodedFrame)
  | emitted (e : ClientEvent)
deriving DecidableEq, Repr

namespace DecodeObservation

/-- The frames taken in, in order. -/
def acceptedFrames (seen : List DecodeObservation) : List QueuedFrame :=
  seen.filterMap fun
    | accepted f => some f
    | _ => none

/-- The frames given to the decoder, in order. -/
def decodedFrames (seen : List DecodeObservation) : List QueuedFrame :=
  seen.filterMap fun
    | decoded f _ => some f
    | _ => none

/-- The events told, in order. -/
def events (seen : List DecodeObservation) : List ClientEvent :=
  seen.filterMap fun
    | emitted e => some e
    | _ => none

/-- The answers of the decoder after which only a new instance helps. -/
def fatalStatuses (seen : List DecodeObservation) : List DecodeStatus :=
  seen.filterMap fun
    | decoded _ answer => if answer.status.isFatal then some answer.status else none
    | _ => none

@[simp] theorem acceptedFrames_append (first second : List DecodeObservation) :
    acceptedFrames (first ++ second) = acceptedFrames first ++ acceptedFrames second :=
  List.filterMap_append

@[simp] theorem decodedFrames_append (first second : List DecodeObservation) :
    decodedFrames (first ++ second) = decodedFrames first ++ decodedFrames second :=
  List.filterMap_append

@[simp] theorem events_append (first second : List DecodeObservation) :
    events (first ++ second) = events first ++ events second :=
  List.filterMap_append

@[simp] theorem fatalStatuses_append (first second : List DecodeObservation) :
    fatalStatuses (first ++ second) = fatalStatuses first ++ fatalStatuses second :=
  List.filterMap_append

@[simp] theorem acceptedFrames_decoded (f : QueuedFrame) (answer : DecodedFrame)
    (es : List ClientEvent) : acceptedFrames (decoded f answer :: es.map emitted) = [] := by
  simp [acceptedFrames]

@[simp] theorem decodedFrames_decoded (f : QueuedFrame) (answer : DecodedFrame)
    (es : List ClientEvent) : decodedFrames (decoded f answer :: es.map emitted) = [f] := by
  simp [decodedFrames]

@[simp] theorem events_decoded (f : QueuedFrame) (answer : DecodedFrame) (es : List ClientEvent) :
    events (decoded f answer :: es.map emitted) = es := by
  change (es.map emitted).filterMap _ = es
  rw [List.filterMap_map]
  exact List.filterMap_some

@[simp] theorem fatalStatuses_decoded (f : QueuedFrame) (answer : DecodedFrame)
    (es : List ClientEvent) : fatalStatuses (decoded f answer :: es.map emitted) =
      if answer.status.isFatal then [answer.status] else [] := by
  cases fatal : answer.status.isFatal <;> simp [fatalStatuses, fatal]

end DecodeObservation

namespace DecodeThreads

variable {δ : Type} (decode : δ → EncodedFrame → DecodedFrame × δ)

/-- A step that is not possible as things are changes nothing. The owner does not start a pipeline
that it is stopping. -/
def step (s : DecodeThreads δ) : DecodeStep → List DecodeObservation × DecodeThreads δ
  | .start => ([], if s.pipeline.closed then s else { s with pipeline := s.pipeline.start.2 })
  | .offer f => ([], if s.pipeline.closed then s else { s with admitted := s.admitted ++ [f] })
  | .queue i =>
    match s.admitted[i]? with
    | none => ([], s)
    | some f => ([.accepted f],
        { s with pipeline := s.pipeline.enqueue f, admitted := s.admitted.eraseIdx i })
  | .answer =>
    let (action, pipeline) := s.pipeline.takeKeyframeNeeded
    ([.answered action], { s with pipeline })
  | .enter =>
    if s.phase = .outside ∧ s.pipeline.running ∧ s.pipeline.decoding then
      ([], { s with phase := .inside })
    else ([], s)
  | .take =>
    match s.phase with
    | .inside =>
      let (taken, pipeline) := s.pipeline.pop
      ([], { s with pipeline, phase := taken.elim .outside .holding })
    | _ => ([], s)
  | .decode =>
    match s.phase with
    | .holding f =>
      let (answer, decoder) := decode s.decoder f.frame
      let (events, pipeline) := s.pipeline.react f answer
      (.decoded f answer :: events.map .emitted, { s with pipeline, decoder, phase := .outside })
    | _ => ([], s)
  | .close => ([], { s with pipeline := { s.pipeline with running := false, closed := true } })
  | .stop =>
    if s.phase = .outside then ([], { s with pipeline := s.pipeline.stop }) else ([], s)

/-- What is seen of a run, and how things are after it. -/
def run (s : DecodeThreads δ) : List DecodeStep → List DecodeObservation × DecodeThreads δ
  | [] => ([], s)
  | x :: xs =>
    let (seen, s) := s.step decode x
    let (more, s) := s.run xs
    (seen ++ more, s)

/-- What holds of the threads and of what has been seen of them, and is kept by every step, holds
after a run. -/
theorem run_invariant {decode : δ → EncodedFrame → DecodedFrame × δ}
    (holds : DecodeThreads δ → List DecodeObservation → Prop)
    (kept : ∀ {s seen} x, holds s seen → holds (s.step decode x).2 (seen ++ (s.step decode x).1))
    {s : DecodeThreads δ} {seen : List DecodeObservation} (first : holds s seen)
    (steps : List DecodeStep) :
    holds (s.run decode steps).2 (seen ++ (s.run decode steps).1) := by
  induction steps generalizing s seen with
  | nil =>
      rw [run, List.append_nil]
      exact first
  | cons x steps ih =>
      have later := ih (kept x first)
      rw [List.append_assoc] at later
      exact later

/-- A pipeline that has just been created. -/
def fresh (instanceId : Nat) (n : Negotiated) (decoder : δ) : DecodeThreads δ :=
  { pipeline := .new instanceId n, decoder }

/-- A submission that nobody interrupts. -/
theorem run_submission (s : DecodeThreads δ) (f : QueuedFrame) :
    s.run decode [.offer f, .queue s.admitted.length, .answer] =
      ((if s.pipeline.closed then [] else [.accepted f]) ++ [.answered (s.pipeline.submit f).1],
        { s with pipeline := (s.pipeline.submit f).2 }) := by
  cases closed : s.pipeline.closed with
  | true =>
      have beyond : s.admitted[s.admitted.length]? = none :=
        List.getElem?_eq_none (Nat.le_refl _)
      simp only [run, step, closed, ↓reduceIte, beyond, ClientPipeline.submit, List.nil_append,
        List.append_nil]
  | false =>
      have last : (s.admitted ++ [f])[s.admitted.length]? = some f := List.getElem?_concat_length
      have others : (s.admitted ++ [f]).eraseIdx s.admitted.length = s.admitted := by
        rw [List.eraseIdx_append_of_length_le (Nat.le_refl _), Nat.sub_self,
          List.eraseIdx_cons_zero, List.append_nil]
      simp only [run, step, closed, Bool.false_eq_true, ↓reduceIte, last, others,
        ClientPipeline.submit, List.nil_append, List.append_nil]

/-- A turn of the decode thread's loop that nobody interrupts. -/
theorem run_turn (s : DecodeThreads δ) (outside : s.phase = .outside) :
    s.run decode [.enter, .take, .decode] =
      match s.pipeline.takeNext with
      | (none, pipeline) => ([], { s with pipeline })
      | (some f, pipeline) =>
        let (answer, decoder) := decode s.decoder f.frame
        let (events, pipeline) := pipeline.react f answer
        (.decoded f answer :: events.map .emitted, { s with pipeline, decoder }) := by
  obtain ⟨pipeline, decoder, phase, admitted⟩ := s
  obtain rfl : phase = .outside := outside
  rw [ClientPipeline.takeNext_eq_pop]
  by_cases goesOn : pipeline.running = true ∧ pipeline.decoding = true
  · cases queue : pipeline.queue with
    | nil => simp [run, step, goesOn, ClientPipeline.pop, queue]
    | cons f rest => simp [run, step, goesOn, ClientPipeline.pop, queue]
  · simp [run, step, goesOn]

variable {decode} {s : DecodeThreads δ} {f : QueuedFrame} {answer : DecodedFrame} {decoder : δ}

/-- A decoder that is still of use leaves the queue and the flags of the pipeline alone. -/
theorem step_decode_of_alive (holding : s.phase = .holding f)
    (decoded : decode s.decoder f.frame = (answer, decoder))
    (alive : answer.status.isFatal = false) :
    ∃ slot stats, s.step decode .decode = (.decoded f answer :: [].map .emitted,
      { s with
        pipeline := { s.pipeline with
          slot, stats
          keyframeNeeded := s.pipeline.keyframeNeeded || answer.status == .failed }
        decoder, phase := .outside }) := by
  obtain ⟨slot, stats, reacted⟩ := s.pipeline.react_of_alive f alive
  refine ⟨slot, stats, ?_⟩
  simp only [step, holding, decoded, reacted]

/-- A dead decoder is reported, and ends the thread. -/
theorem step_decode_of_fatal (holding : s.phase = .holding f)
    (decoded : decode s.decoder f.frame = (answer, decoder))
    (fatal : answer.status.isFatal = true) :
    s.step decode .decode =
      (.decoded f answer :: (s.pipeline.emit (.resetRequested s.pipeline.instanceId
          (.decodeFatal answer.status))).map .emitted,
        { s with
          pipeline := { s.pipeline with closed := true, queue := [], decoding := false }
          decoder, phase := .outside }) := by
  simp only [step, holding, decoded, s.pipeline.react_of_fatal f fatal, ClientPipeline.abandon]

end DecodeThreads

end Screencast
