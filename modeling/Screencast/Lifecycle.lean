import Screencast.Error

/-! # The life of a pipeline instance

An instance is created, runs once and stops for good. Whoever needs other parameters builds
another one.
-/

namespace Screencast

/-- The phase of one pipeline instance. -/
inductive Lifecycle
  | created | running | stopped
deriving DecidableEq, Repr, Inhabited

namespace Lifecycle

def label : Lifecycle → String
  | created => "Created"
  | running => "Running"
  | stopped => "Stopped"

/-- Only a fresh instance starts. -/
def start : Lifecycle → Except StreamError Lifecycle
  | created => .ok running
  | running => .error (.invalidState "pipeline already running")
  | stopped => .error (.invalidState "a stopped pipeline is never resumed")

/-- Stopping leads to the last phase; the flag tells whether it had not been reached before. -/
def stop (s : Lifecycle) : Bool × Lifecycle := (s != stopped, stopped)

def isRunning (s : Lifecycle) : Bool := s == running

end Lifecycle

end Screencast
