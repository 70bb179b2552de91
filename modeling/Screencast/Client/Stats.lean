import Screencast.Client.Telemetry

/-! # What the render thread achieved

Frame rate and latency as they were measured. All of it is single-precision arithmetic, and sums
run from the oldest value to the newest.
-/

namespace Screencast

/-- Figures shown over the picture. -/
structure RenderStats where
  fps : Single := .zero
  decoded : Nat := 0
  /-- Decoded pictures that were replaced before they were shown. -/
  dropped : Nat := 0
  rendered : Nat := 0
  latencyMs : Single := .zero
  rttMs : Nat := 0
  bandwidth : UInt64 := 0
  lossRate : Single := .zero
deriving DecidableEq, Repr, Inhabited

/-- Measurements behind the figures. Moments and intervals are in nanoseconds. -/
structure StatsTracker where
  /-- Intervals between pictures shown, the oldest first. -/
  intervals : List Nat := []
  lastPresent : Option Nat := none
  latencyMs : Option Single := none
  decoded : Nat := 0
  rendered : Nat := 0
deriving DecidableEq, Repr

namespace StatsTracker

/-- The number of intervals that the frame rate is averaged over. -/
def intervalLimit : Nat := 60

def recordDecoded (s : StatsTracker) : StatsTracker := { s with decoded := s.decoded + 1 }

/-- A picture was shown. A clock that went backwards makes an interval of length zero. -/
def recordPresent (s : StatsTracker) (time : Nat) : StatsTracker :=
  let intervals := match s.lastPresent with
    | none => s.intervals
    | some last =>
      let all := s.intervals ++ [time - last]
      if intervalLimit < all.length then all.drop 1 else all
  { s with intervals, lastPresent := some time, rendered := s.rendered + 1 }

/-- Microseconds from capture to arrival on one clock; time never runs backwards. -/
def latency (captureTime arrivalTime : UInt64) (timeDiff : Int) : Nat :=
  (arrivalTime.toInt64.toInt - captureTime.toInt64.toInt - timeDiff).toNat

/-- One picture's latency goes into the moving average with the weight of one eighth. -/
def recordLatency (s : StatsTracker) (captureTime arrivalTime : UInt64) (timeDiff : Int) :
    StatsTracker :=
  let sample := (UInt64.ofNat (latency captureTime arrivalTime timeDiff)).toFloat32 / 1000.0
  let average := match s.latencyMs with
    | some average => average.toFloat32 * 7.0 / 8.0 + sample / 8.0
    | none => sample
  { s with latencyMs := some (.ofFloat32 average) }

/-- A span of time in seconds. -/
def seconds (nanos : Nat) : Float32 :=
  (UInt64.ofNat (nanos / 1000000000)).toFloat32
    + (UInt64.ofNat (nanos % 1000000000)).toFloat32 / 1000000000.0

/-- Pictures a second, over the intervals that are kept. -/
def fps (s : StatsTracker) : Single :=
  if s.intervals.isEmpty then .zero else
    let sum := s.intervals.foldl (fun sum n => sum + seconds n) 0.0
    let average := sum / (UInt64.ofNat s.intervals.length).toFloat32
    if average > 0.0 then .ofFloat32 (1.0 / average) else .zero

def snapshot (s : StatsTracker) (dropped : Nat) (t : Telemetry) : RenderStats :=
  { fps := s.fps, decoded := s.decoded, dropped, rendered := s.rendered,
    latencyMs := s.latencyMs.getD .zero, rttMs := t.rttMs, bandwidth := t.bandwidth,
    lossRate := t.lossRate }

end StatsTracker

end Screencast
