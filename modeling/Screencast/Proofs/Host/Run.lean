import Screencast.Proofs.Host.Turn

/-! # Runs of the capture loop

Messages of the client, turns and a stop reach the capture loop in any order. A turn is taken as
long as the loop runs; afterwards the queue is closed, and neither turns nor messages have an
effect.
-/

namespace Screencast

open Wire

/-- A closed, empty queue stays so, whatever message comes. -/
theorem TaskQueue.handle_closed (m : Message) : (handle ⟨[], true⟩ m).2 = ⟨[], true⟩ := by
  unfold handle
  cases HostTask.ofMessage? m with
  | none => rfl
  | some task => rfl

/-- What reaches the capture loop. -/
inductive HostInput
  /-- A message of the client. -/
  | message (m : Message)
  /-- The loop comes round, and the collaborators answer. -/
  | turn (t : Turn)
  | stop
deriving DecidableEq, Repr

/-- A turn that the loop took, with the tasks it found and what it did. -/
structure TakenTurn where
  tasks : List HostTask
  turn : Turn
  actions : List HostAction
deriving DecidableEq, Repr

namespace HostLoop

variable {ε : Type} [Encoder ε]

/-- What an input makes of the loop, with the turn that it made the loop take. -/
def respond (l : HostLoop ε) : HostInput → Option TakenTurn × HostLoop ε
  | .message m => (none, { l with queue := (l.queue.handle m).2 })
  | .turn t =>
    if l.running then (some ⟨l.queue.tasks, t, (l.step t).1⟩, (l.step t).2) else (none, l)
  | .stop => (none, l.leave)

/-- The turns that inputs made the loop take, and the loop after them. -/
def follow (l : HostLoop ε) : List HostInput → List TakenTurn × HostLoop ε
  | [] => ([], l)
  | i :: inputs =>
    (((l.respond i).1.toList ++ ((l.respond i).2.follow inputs).1),
      ((l.respond i).2.follow inputs).2)

/-- Without inputs nothing is done. -/
@[simp] theorem follow_nil (l : HostLoop ε) : l.follow [] = ([], l) := rfl

/-- The first input is answered, and the rest of the run starts from there. -/
theorem follow_cons (l : HostLoop ε) (i : HostInput) (inputs : List HostInput) :
    l.follow (i :: inputs) =
      ((l.respond i).1.toList ++ ((l.respond i).2.follow inputs).1,
        ((l.respond i).2.follow inputs).2) := rfl

/-- What holds of the turns taken and the loop after every input holds at the end. -/
theorem follow_invariant {P : List TakenTurn → HostLoop ε → Prop}
    (kept : ∀ past l i, P past l → P (past ++ (l.respond i).1.toList) (l.respond i).2)
    {past : List TakenTurn} {l : HostLoop ε} (initial : P past l) (inputs : List HostInput) :
    P (past ++ (l.follow inputs).1) (l.follow inputs).2 := by
  induction inputs generalizing past l with
  | nil =>
      rw [follow_nil, List.append_nil]
      exact initial
  | cons i inputs ih =>
      have later := ih (kept past l i initial)
      rw [List.append_assoc] at later
      exact later

/-- A turn of a running loop, with the loop left if it was the last. -/
theorem step_of_running {l : HostLoop ε} (running : l.running = true) (t : Turn) :
    l.step t =
      let took := l.worker.turn l.queue.tasks t
      let after := { l with worker := took.2.2, queue := l.queue.drain.2 }
      (took.2.1, if took.1 then after else after.leave) := by
  simp only [step, turn, running, if_true]
  rfl

/-- A running loop takes the turn with all tasks that wait. -/
theorem respond_turn_of_running {l : HostLoop ε} (running : l.running = true) (t : Turn) :
    l.respond (.turn t) = (some ⟨l.queue.tasks, t, (l.step t).1⟩, (l.step t).2) := by
  simp only [respond, running, if_true]

/-- A stopped loop takes no turn. -/
theorem respond_turn_of_stopped {l : HostLoop ε} (stopped : l.running = false) (t : Turn) :
    l.respond (.turn t) = (none, l) := by
  simp only [respond, stopped, Bool.false_eq_true, if_false]

/-- A loop that has been left takes no turn and no task. -/
theorem follow_leave (l : HostLoop ε) (inputs : List HostInput) :
    l.leave.follow inputs = ([], l.leave) := by
  induction inputs with
  | nil => rfl
  | cons i inputs ih =>
      have ignored : l.leave.respond i = (none, l.leave) := by
        cases i with
        | message m =>
            change (none, { l.leave with queue := (TaskQueue.handle ⟨[], true⟩ m).2 }) = _
            rw [TaskQueue.handle_closed]
            rfl
        | turn t => exact respond_turn_of_stopped rfl t
        | stop => rfl
      rw [follow_cons, ignored]
      exact ih

/-- Each turn taken is one that the running loop took at some point. -/
theorem mem_follow {l : HostLoop ε} {inputs : List HostInput} {τ : TakenTurn}
    (taken : τ ∈ (l.follow inputs).1) :
    ∃ l' : HostLoop ε, l'.running = true ∧ τ.actions = (l'.step τ.turn).1 := by
  induction inputs generalizing l with
  | nil => cases taken
  | cons i inputs ih =>
      rw [follow_cons] at taken
      rcases List.mem_append.mp taken with now | later
      · cases i with
        | message m => cases now
        | stop => cases now
        | turn t =>
            by_cases running : l.running = true
            · rw [respond_turn_of_running running] at now
              obtain rfl := List.mem_singleton.mp now
              exact ⟨l, running, rfl⟩
            · rw [respond_turn_of_stopped (Bool.eq_false_iff.mpr running)] at now
              cases now
      · exact ih later

end HostLoop

end Screencast
