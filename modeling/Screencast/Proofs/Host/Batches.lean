import Screencast.Lossless.Encoder
import Screencast.Proofs.Host.Turn

/-! # Tasks in batches

How many tasks a turn finds waiting is a matter of timing. Tasks that change rates are done in order
whatever turn they fall into. A request for a keyframe is put off to the end of its turn; that makes
no difference if the encoder takes it the same once or twice, and before or after a change of rates
(`Screencast.Encoder.RequestsApart`). So only the order of the other tasks counts
(`Screencast.HostWorker.batches_do_not_matter`).
-/

namespace Screencast

/-- A request for a keyframe acts the same once or twice, and before or after a change of rates. -/
structure Encoder.RequestsApart (ε : Type) [Encoder ε] : Prop where
  again : ∀ e : ε, requestKeyframe (requestKeyframe e) = requestKeyframe e
  beside : ∀ (e : ε) (p : RatePatch),
    reconfigure (requestKeyframe e) p = ((reconfigure e p).1, requestKeyframe (reconfigure e p).2)

/-- The lossless encoder notes a request for a keyframe apart from its rates. -/
theorem LosslessEncoder.requestsApart : Encoder.RequestsApart LosslessEncoder where
  again _ := rfl
  beside _ _ := rfl

namespace HostWorker

variable {ε : Type} [Encoder ε] {w : HostWorker ε}

private theorem restart_restart (apart : Encoder.RequestsApart ε) (w : HostWorker ε) :
    w.restart.restart = w.restart := by
  unfold restart
  rw [apart.again]
  rfl

private theorem restart_perform (apart : Encoder.RequestsApart ε) (w : HostWorker ε)
    (task : HostTask) :
    w.restart.perform task = ((w.perform task).1, (w.perform task).2.restart) := by
  cases planned : (plan w.rates task).1 with
  | none => rw [perform_of_none planned, perform_of_none (w := w.restart) planned]; rfl
  | some p =>
      have answer := apart.beside w.encoder p
      rw [perform_of_some planned, perform_of_some (w := w.restart) planned]
      unfold apply restart
      dsimp only
      rw [answer]

/-- To start over and then do tasks is to do them and then start over. -/
theorem restart_performAll (apart : Encoder.RequestsApart ε) (w : HostWorker ε)
    (tasks : List HostTask) :
    w.restart.performAll tasks = ((w.performAll tasks).1, (w.performAll tasks).2.restart) := by
  induction tasks generalizing w with
  | nil => rfl
  | cons task tasks ih => rw [performAll_cons, performAll_cons, restart_perform apart, ih]

/-- Two batches in a row leave the worker that one batch of both leaves. -/
theorem drain_append (apart : Encoder.RequestsApart ε) (w : HostWorker ε)
    (tasks later : List HostTask) :
    (w.drain (tasks ++ later)).2 = ((w.drain tasks).2.drain later).2 := by
  by_cases asked : .requestKeyframe ∈ tasks
  · rw [drain_of_mem (List.mem_append_left later asked), drain_of_mem asked, performAll_append]
    by_cases askedLater : .requestKeyframe ∈ later
    · rw [drain_of_mem askedLater, restart_performAll apart, restart_restart apart]
    · rw [drain_of_not_mem askedLater, restart_performAll apart]
  · rw [drain_of_not_mem asked]
    by_cases askedLater : .requestKeyframe ∈ later
    · rw [drain_of_mem (List.mem_append_right tasks askedLater), drain_of_mem askedLater,
        performAll_append]
    · have unasked : .requestKeyframe ∉ tasks ++ later := by
        rw [List.mem_append, not_or]
        exact ⟨asked, askedLater⟩
      rw [drain_of_not_mem unasked, drain_of_not_mem askedLater, performAll_append]

/-- However the tasks are split into batches, they leave the same worker. -/
theorem drain_flatten (apart : Encoder.RequestsApart ε) (w : HostWorker ε)
    (batches : List (List HostTask)) :
    (w.drain batches.flatten).2 = batches.foldl (fun w tasks => (w.drain tasks).2) w := by
  induction batches generalizing w with
  | nil => rfl
  | cons tasks batches ih => rw [List.flatten_cons, drain_append apart, ih, List.foldl_cons]

/-- Where requests for a keyframe stand among the others, and how many there are, is all one. -/
theorem drain_of_same_others {tasks tasks' : List HostTask}
    (others : tasks.filter (· ≠ .requestKeyframe) = tasks'.filter (· ≠ .requestKeyframe))
    (requests : .requestKeyframe ∈ tasks ↔ .requestKeyframe ∈ tasks') (w : HostWorker ε) :
    w.drain tasks = w.drain tasks' := by
  have performed : w.performAll tasks = w.performAll tasks' := by
    rw [← performAll_requests_aside, others, performAll_requests_aside]
  by_cases asked : .requestKeyframe ∈ tasks
  · rw [drain_of_mem asked, drain_of_mem (requests.mp asked), performed]
  · rw [drain_of_not_mem asked, drain_of_not_mem (mt requests.mpr asked), performed]

/-- **Batches do not matter.** Tasks done in one turn leave the worker of a lossless stream as they
do spread over any number of turns without a capture in between; and within a turn the requests for
a keyframe may be moved anywhere without any difference, be it to what is done or to what it
leaves. -/
theorem batches_do_not_matter (w : HostWorker LosslessEncoder) :
    (∀ tasks later, (w.drain (tasks ++ later)).2 = ((w.drain tasks).2.drain later).2) ∧
    (∀ batches : List (List HostTask),
      (w.drain batches.flatten).2 = batches.foldl (fun w tasks => (w.drain tasks).2) w) ∧
    ∀ tasks tasks' : List HostTask,
      tasks.filter (· ≠ .requestKeyframe) = tasks'.filter (· ≠ .requestKeyframe) →
        (.requestKeyframe ∈ tasks ↔ .requestKeyframe ∈ tasks') → w.drain tasks = w.drain tasks' :=
  ⟨drain_append LosslessEncoder.requestsApart w, drain_flatten LosslessEncoder.requestsApart w,
    fun _ _ others requests => drain_of_same_others others requests w⟩

end HostWorker

end Screencast
