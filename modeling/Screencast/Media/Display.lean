import Screencast.Media.Codec
import Screencast.Number.Rounding

/-! # Display modes and what two ends agree on

Capturing and presenting keep to the refresh rate of a display: they wait for the next refresh, but
not for ever. Moments and spans are in nanoseconds.
-/

namespace Screencast

/-- Clockwise rotation of a screen. -/
inductive Rotation
  | deg0 | deg90 | deg180 | deg270
deriving DecidableEq, Repr, Inhabited

namespace Rotation

def all : List Rotation := [deg0, deg90, deg180, deg270]

def degrees : Rotation → Nat
  | deg0 => 0
  | deg90 => 90
  | deg180 => 180
  | deg270 => 270

def ofDegrees? (n : Nat) : Option Rotation := all.find? (·.degrees == n)

end Rotation

/-- A display mode, as a host reports it and as a parameter change proposes it. -/
structure DisplayMode where
  width : UInt32
  height : UInt32
  refreshRate : UInt32
  rotation : Rotation
deriving DecidableEq, Repr, Inhabited

/-- Width, height and refresh rate, such as `1920x1080@60`. -/
def DisplayMode.text (m : DisplayMode) : String :=
  toString m.width ++ "x" ++ toString m.height ++ "@" ++ toString m.refreshRate

/-- The time between two refreshes of a screen, to the nearest nanosecond. -/
def refreshInterval (rate : Nat) : Nat := roundDiv 1000000000 rate

/-- The first moment after `now` that is a whole number of intervals, at least one, from `due`. -/
def nextRefresh (due interval now : Nat) : Nat := due + interval * ((now - due) / interval + 1)

/-- Waits until `due`, at most for `timeout`: whether it came, and what time it is then. -/
def waitUntil (due now timeout : Nat) : Bool × Nat :=
  if due ≤ now then (true, now)
  else if timeout < due - now then (false, now + timeout)
  else (true, due)

/-- What both ends of one pipeline instance are built for. A change of any part means a new
instance. With `stretch` the picture fills the client's surface instead of keeping its shape. -/
structure Negotiated where
  mode : DisplayMode
  ability : Ability
  stretch : Bool
deriving DecidableEq, Repr, Inhabited

end Screencast
