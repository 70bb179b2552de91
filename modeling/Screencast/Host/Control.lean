import Screencast.Wire.Message

/-! # Tasks for the capture thread

Whoever holds the host's control leaves tasks in a queue; the capture thread takes all of them at
the start of its next turn. Once the thread has gone, the queue is closed and stays empty.
-/

namespace Screencast

open Wire

/-- Something the capture thread is asked to do. -/
inductive HostTask
  | requestKeyframe
  | reconfigure (request : RateRequest)
  | networkChanged (stat : TransportStat)
deriving DecidableEq, Repr

/-- The task a client's message asks for. Other messages ask for nothing. -/
def HostTask.ofMessage? : Message → Option HostTask
  | .requestKeyframe => some .requestKeyframe
  | .reconfigureEncoder request => some (.reconfigure request)
  | .sendSideStat stat => some (.networkChanged stat)
  | _ => none

/-- Tasks that wait, the oldest first. -/
structure TaskQueue where
  tasks : List HostTask := []
  closed : Bool := false
deriving DecidableEq, Repr

namespace TaskQueue

instance : Inhabited TaskQueue := ⟨{}⟩

def pending (q : TaskQueue) : Nat := q.tasks.length

/-- Adds a task; a closed queue drops it. -/
def push (q : TaskQueue) (task : HostTask) : TaskQueue :=
  if q.closed then q else { q with tasks := q.tasks ++ [task] }

/-- Takes all tasks. -/
def drain (q : TaskQueue) : List HostTask × TaskQueue := (q.tasks, { q with tasks := [] })

/-- Closes the queue and drops what is in it. -/
def close (_ : TaskQueue) : TaskQueue := ⟨[], true⟩

/-- Passes on a client's message; the flag tells whether the host has a use for it. -/
def handle (q : TaskQueue) (m : Message) : Bool × TaskQueue :=
  match HostTask.ofMessage? m with
  | some task => (true, q.push task)
  | none => (false, q)

end TaskQueue

end Screencast
