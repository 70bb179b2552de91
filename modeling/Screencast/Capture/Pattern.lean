import Screencast.Cursor.Basic
import Screencast.Error
import Screencast.Media.Device
import Screencast.Media.Display

/-! # A capturer with a test pattern

Stands in for a desktop: a bright band moves over a gradient at the display's refresh rate, a
cursor circles the middle of the screen, and changes of the display mode can be scripted.
-/

namespace Screencast

/-- The state of a pattern capturer. -/
structure PatternCapturer where
  /-- Its own device, lent to the encoder. -/
  device : Device
  mode : DisplayMode
  /-- Display modes to come, each with the number of pictures it comes after. -/
  changes : List (Nat × DisplayMode) := []
  format : CaptureFormat := ⟨.bgra8, false⟩
  started : Bool := false
  /-- Pictures captured so far. -/
  frames : Nat := 0
  nextRefresh : Option Nat := none
  hasCompositorCursor : Bool := true
deriving DecidableEq, Repr

namespace PatternCapturer

/-- What a pattern capturer calls its device. -/
def deviceLabel : String := "pattern-capture"

/-- The width of the band in pixels. -/
def bandWidth : Nat := 32

/-- Edge of the cursor bitmap in pixels. -/
def cursorSize : Nat := 16

/-- Pictures from one cursor shape to the other. -/
def cursorPeriod : Nat := 120

/-- Begins to capture at the moment `now`. -/
def start (c : PatternCapturer) (now : Nat) : Except StreamError PatternCapturer :=
  if c.mode.width = 0 ∨ c.mode.height = 0 then
    .error (.captureStart ("cannot capture a " ++ c.mode.text ++ " display"))
  else .ok { c with started := true, nextRefresh := some now }

/-- Takes over the format that an encoder wants. Pixels in memory are always `bgra8`. -/
def setFormat (c : PatternCapturer) (f : CaptureFormat) : Except StreamError PatternCapturer :=
  if f.cpuReadable ∧ f.pixel ≠ .bgra8 then
    .error (.captureStart ("pattern capture cannot produce CPU " ++ f.pixel.label))
  else .ok { c with format := f }

/-- One pixel of the pattern. -/
def pixel (band x y : Nat) : Bytes :=
  if band ≤ x ∧ x < band + bandWidth then [0xFF, 0xFF, 0xFF, 0xFF]
  else [UInt8.ofNat y, UInt8.ofNat x, 0x40, 0xFF]

/-- The pattern of the current picture. -/
def pattern (c : PatternCapturer) : Bytes :=
  let width := c.mode.width.toNat
  let band := c.frames * 8 % max width 1
  (List.range c.mode.height.toNat).flatMap fun y =>
    (List.range width).flatMap fun x => pixel band x y

def pixels (c : PatternCapturer) : Pixels :=
  if c.format.cpuReadable then .memory (c.mode.width * 4) c.pattern
  else .surface (UInt64.ofNat (c.frames % 3))

/-- Counts a picture; a change of mode that is due by then happens. -/
def advance (c : PatternCapturer) : PatternCapturer :=
  let c := { c with frames := c.frames + 1 }
  match c.changes with
  | (after, mode) :: rest =>
    if after ≤ c.frames then { c with mode, changes := rest } else c
  | [] => c

/-- Waits for the next refresh, at most for `timeout`, and captures. Also tells what time it is
then. Refreshes that were missed are left out. -/
def capture (c : PatternCapturer) (now timeout : Nat) :
    Option CapturedFrame × Nat × PatternCapturer :=
  if !c.started then (none, now, c) else
    let due := c.nextRefresh.getD now
    match waitUntil due now timeout with
    | (false, now) => (none, now, c)
    | (true, now) =>
      let interval := refreshInterval (max c.mode.refreshRate.toNat 1)
      let c := { c with nextRefresh := some (Screencast.nextRefresh due interval now) }.advance
      let frame : CapturedFrame :=
        { width := c.mode.width, height := c.mode.height, format := c.format.pixel,
          pixels := c.pixels, timestamp := UInt64.ofNat (now / 1000) }
      (some frame, now, c)

/-- Where the cursor is: it goes around the middle, a quarter of the screen away from it. -/
def cursorPosition (c : PatternCapturer) : Int32 × Int32 :=
  let t := c.frames.toFloat / 60.0
  let cx := c.mode.width.toNat.toFloat / 2.0
  let cy := c.mode.height.toNat.toFloat / 2.0
  ((cx + cx * 0.5 * t.cos).toInt32, (cy + cy * 0.5 * t.sin).toInt32)

/-- The cursor as a bitmap whose shade changes from time to time. -/
def compositorCursor (c : PatternCapturer) : Option CursorState :=
  if !c.hasCompositorCursor then none else
    let (x, y) := c.cursorPosition
    let shade := if c.frames / cursorPeriod % 2 = 0 then 0xFF else 0x80
    let size := UInt32.ofNat cursorSize
    let data := List.replicate (cursorSize * cursorSize * 4) shade
    some ⟨x, y, true, .bitmap ⟨size, size, 0, 0, data⟩⟩

/-- The cursor as the older interface tells of it. -/
def legacyCursor (c : PatternCapturer) : Option CursorState :=
  let (x, y) := c.cursorPosition
  some ⟨x, y, true, .preset 0⟩

end PatternCapturer

end Screencast
