/-! # Throttling captures to a frame rate

Screens are often captured faster than the agreed frame rate. The throttle remembers the captures
of the last second. As long as there are few enough of them, every one is encoded; beyond that,
time is cut into windows of one frame's length, and one capture a window is encoded. The number
of a window is computed from the time itself, so that no rounding adds up.
-/

namespace Screencast

/-- Decides which captures are worth encoding. Times are in microseconds. -/
structure Throttle where
  /-- The frame rate aimed at. -/
  target : Nat
  /-- How many captures a second above the target are let through. -/
  hysteresis : Nat
  /-- Times of the captures of the last second, the oldest first. -/
  history : List Nat := []
  /-- The window of the capture encoded last. -/
  lastWindow : Option Nat := none
deriving DecidableEq, Repr

namespace Throttle

/-- Microseconds in a second. -/
def second : Nat := 1000000

def new (target hysteresis : Nat) : Throttle := ⟨max target 1, hysteresis, [], none⟩

def setTarget (t : Throttle) (fps : Nat) : Throttle := { t with target := max fps 1 }

/-- The number of captures within the last second. -/
def observed (t : Throttle) : Nat := t.history.length

/-- The length of a window. -/
def windowLength (t : Throttle) : Nat := max (second / t.target) 1

/-- The number of the window that a time lies in. -/
def windowOf (t : Throttle) (time : Nat) : Nat := time / t.windowLength

/-- The number of captures a second up to which every one is encoded. -/
def limit (t : Throttle) : Nat := t.target + t.hysteresis

/-- Remembers a capture and forgets those a second old or older. -/
def remember (t : Throttle) (time : Nat) : Throttle :=
  { t with history := (t.history ++ [time]).dropWhile fun old => old + second ≤ time }

/-- Whether a capture that has been remembered is encoded. -/
def accepts (t : Throttle) (time : Nat) : Bool :=
  decide (t.observed ≤ t.limit) || t.lastWindow.all (· < t.windowOf time)

/-- Takes note of a capture and tells whether to encode it. -/
def offer (t : Throttle) (time : Nat) : Bool × Throttle :=
  let t := t.remember time
  if t.accepts time then (true, { t with lastWindow := some (t.windowOf time) }) else (false, t)

end Throttle

end Screencast
