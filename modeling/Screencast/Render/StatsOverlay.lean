import Screencast.Client.Stats
import Screencast.Number.Rounding
import Screencast.Render.Headless

/-! # An overlay that reports instead of drawing

From time to time the figures of the stream go into a log record.
-/

namespace Screencast

/-- A record of the figures, as text. -/
structure StatsReport where
  fps : String
  latencyMs : String
  decoded : String
  dropped : String
  rttMs : String
  bandwidthKbps : String
deriving DecidableEq, Repr

/-- The record of some figures. -/
def RenderStats.summary (s : RenderStats) : StatsReport :=
  { fps := s.fps.toOnePlace, latencyMs := s.latencyMs.toOnePlace, decoded := toString s.decoded,
    dropped := toString s.dropped, rttMs := toString s.rttMs,
    bandwidthKbps := toString (s.bandwidth.toNat / 1000) }

/-- The state of the overlay. Moments and spans are in nanoseconds. -/
structure StatsOverlay where
  period : Nat
  lastReport : Option Nat := none
  resets : Nat := 0
deriving DecidableEq, Repr

namespace StatsOverlay

/-- A record is due at first, and whenever the period has passed. -/
def isDue (o : StatsOverlay) (now : Nat) : Bool :=
  o.lastReport.all fun last => decide (o.period ≤ now - last)

def render (o : StatsOverlay) (s : RenderStats) (now : Nat) :
    Option StatsReport × RenderOutcome × StatsOverlay :=
  if o.isDue now then (some s.summary, .success, { o with lastReport := some now })
  else (none, .success, o)

/-- After a reset a record is due at once. -/
def reset (o : StatsOverlay) : StatsOverlay :=
  { o with resets := o.resets + 1, lastReport := none }

end StatsOverlay

end Screencast
