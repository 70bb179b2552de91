import Screencast.Client.RenderSlot
import Screencast.Media.Display

/-! # A renderer without a window

Checks and counts what it is asked to draw, and presents at the rate of a virtual screen.
-/

namespace Screencast

/-- How a call to a renderer or an overlay ended. -/
inductive RenderOutcome
  | success
  /-- What was drawn into has to be set up again; nothing else is affected. -/
  | reset
  /-- Beyond repair. -/
  | failed
deriving DecidableEq, Repr, Inhabited

namespace RenderOutcome

def label : RenderOutcome → String
  | success => "Success"
  | reset => "Reset"
  | failed => "Failed"

def ofLabel? (text : String) : Option RenderOutcome :=
  [success, reset, failed].find? (·.label == text)

end RenderOutcome

/-- The state of a headless renderer. -/
structure HeadlessRenderer where
  /-- Textures that may be drawn. -/
  bound : List Resource := []
  /-- Nanoseconds between two refreshes; without it presenting never waits. -/
  interval : Option Nat := none
  nextRefresh : Option Nat := none
  mouseMode : MouseMode := .absolute
  stretch : Bool := false
  rendered : Nat := 0
  presented : Nat := 0
  cursorUpdates : Nat := 0
  targetResets : Nat := 0
  lastCursor : Option CursorState := none
deriving DecidableEq, Repr

namespace HeadlessRenderer

instance : Inhabited HeadlessRenderer := ⟨{}⟩

/-- A renderer for a screen of a refresh rate; a rate of zero stands for no screen. -/
def withRefreshRate (rate : Nat) : HeadlessRenderer :=
  { interval := if rate = 0 then none else some (refreshInterval rate) }

/-- Takes over a decoder's textures; there must be some. -/
def bind (r : HeadlessRenderer) (textures : List Resource) : Bool × HeadlessRenderer :=
  if textures.isEmpty then (false, r) else (true, { r with bound := textures })

/-- Waits for the next refresh: whether it came in time, and what time it is then. -/
def wait (r : HeadlessRenderer) (now timeout : Nat) : Bool × Nat × HeadlessRenderer :=
  match r.interval with
  | none => (true, now, r)
  | some interval =>
    match waitUntil (r.nextRefresh.getD now) now timeout with
    | (false, now) => (false, now, r)
    | (true, now) => (true, now, { r with nextRefresh := some (now + interval) })

def render (r : HeadlessRenderer) (resource : Resource) : RenderOutcome × HeadlessRenderer :=
  if r.bound.contains resource then (.success, { r with rendered := r.rendered + 1 })
  else (.failed, r)

def present (r : HeadlessRenderer) : RenderOutcome × HeadlessRenderer :=
  (.success, { r with presented := r.presented + 1 })

def updateCursor (r : HeadlessRenderer) (cursor : CursorState) : HeadlessRenderer :=
  { r with cursorUpdates := r.cursorUpdates + 1, lastCursor := some cursor }

/-- Sets the target up again; it is ready at once. -/
def resetTarget (r : HeadlessRenderer) : HeadlessRenderer :=
  { r with targetResets := r.targetResets + 1, nextRefresh := none }

end HeadlessRenderer

end Screencast
