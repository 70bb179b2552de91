import Screencast.Media.Display

/-! # A change of mode under way

A change of the display mode is complete when the client has acknowledged the proposed mode and
the host's pipeline has ended. It expires when that has not happened by a deadline.
-/

namespace Screencast

/-- A change of mode that waits for both ends. Moments are in nanoseconds. -/
structure Renegotiation where
  proposed : DisplayMode
  deadline : Int
  acked : Bool := false
  hostDone : Bool := false
deriving DecidableEq, Repr

namespace Renegotiation

/-- A change that is proposed at the moment `now` and expires after `timeout`. -/
def propose (mode : DisplayMode) (now : Nat) (timeout : Nat) : Renegotiation :=
  ⟨mode, (now + timeout : Nat), false, false⟩

/-- Takes note of an acknowledgement; the flag tells whether it is for the proposed mode. -/
def onAck (r : Renegotiation) (mode : DisplayMode) : Bool × Renegotiation :=
  let matched := decide (mode = r.proposed)
  (matched, { r with acked := r.acked || matched })

/-- Takes note of the host's end. -/
def onHostTerminated (r : Renegotiation) : Renegotiation := { r with hostDone := true }

def isComplete (r : Renegotiation) : Bool := r.acked && r.hostDone

def isExpired (r : Renegotiation) (now : Int) : Bool := !r.isComplete && decide (r.deadline ≤ now)

end Renegotiation

end Screencast
