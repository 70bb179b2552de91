import Screencast.Number.Single
import Screencast.Text.Elapsed

/-! # Tuning

Numbers that deployments may change without touching the pipelines, and the values they start
from.
-/

namespace Screencast

/-- Tuning of the host's pipeline. -/
structure HostTuning where
  /-- Highest frame rate for an encoder that runs in software. -/
  softFpsCeiling : Nat := 30
  /-- How far the capture rate may exceed its target before frames are left out. -/
  throttleHysteresis : Nat := 2
  /-- Lower bound of the bitrate in bits a second. -/
  minBitrate : Nat := 1000000
  /-- The longest wait for one capture, in milliseconds. -/
  captureTimeoutMs : Nat := 100
  /-- The longest wait for capturing to begin, in milliseconds. -/
  startTimeoutMs : Nat := 3000
  /-- Loss rate above which the bitrate goes down. -/
  backoffLoss : Single := .tenth
  /-- Number of repeated packets above which the bitrate goes down. -/
  backoffNack : Nat := 20
  /-- Factor on the way down. -/
  backoffRatio : Single := .seventeenTwentieths
  /-- Factor on the way up. -/
  probeRatio : Single := .elevenTenths
deriving DecidableEq, Repr, Inhabited

def HostTuning.startTimeout (t : HostTuning) : Span := .ofMillis t.startTimeoutMs

/-- Tuning of the client's pipeline. -/
structure ClientTuning where
  /-- How long the decode thread waits for input, in milliseconds. -/
  decodeWaitMs : Nat := 5
  /-- How long the render thread waits for a reason to draw, in milliseconds. -/
  renderWaitMs : Nat := 16
  /-- Least time between two transport reports, in milliseconds. -/
  statIntervalMs : Nat := 1000
  /-- Length of the decode queue from which on it counts as backed up. -/
  queueWarnDepth : Nat := 30
deriving DecidableEq, Repr, Inhabited

namespace ClientTuning

/-- A wait is never shorter than a millisecond, so that no thread spins. -/
def decodeWait (t : ClientTuning) : Span := .ofMillis (max t.decodeWaitMs 1)

def renderWait (t : ClientTuning) : Span := .ofMillis (max t.renderWaitMs 1)

def statInterval (t : ClientTuning) : Span := .ofMillis t.statIntervalMs

end ClientTuning

end Screencast
