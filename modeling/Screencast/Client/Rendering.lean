import Screencast.Client.Pipeline
import Screencast.Render.Headless

/-! # The render thread

One pass of the thread's loop makes a lost target again, takes what has come into the render slot,
passes it to the renderer, and draws the newest picture, or the one shown last when there is no
newer one. What renderer and overlays answer is given beforehand, and everything the thread does
with them is recorded in order.
-/

namespace Screencast

open Wire

/-- What renderer, overlays and clocks answer during one pass. -/
structure RenderPass where
  targetOk : Bool := true
  /-- Whether the renderer can take a picture. -/
  ready : Bool := true
  render : Resource → RenderOutcome := fun _ => .success
  present : RenderOutcome := .success
  /-- How each overlay draws. -/
  overlays : List RenderOutcome := []
  /-- The time at which the slot is read, in microseconds. -/
  now : UInt64 := 0
  /-- The moment of presentation, in nanoseconds. -/
  presentTime : Nat := 0
  /-- Whether a report to the host is due. -/
  reportDue : Bool := false

/-- One thing the thread did with the renderer or an overlay. -/
inductive RenderAction
  | targetReset (ok : Bool)
  | cursor (state : CursorState)
  | mouseMode (mode : MouseMode)
  | stretch (stretch : Bool)
  | rendered (r : Resource) (outcome : RenderOutcome)
  | presented (outcome : RenderOutcome)
  | overlayRendered (index : Nat) (stats : RenderStats) (outcome : RenderOutcome)
  | overlayReset (index : Nat)
deriving DecidableEq, Repr

/-- What the thread takes from the render slot. -/
structure SlotReading where
  frame : Option WaitingFrame
  wake : Wake
  cursor : Option CursorState
  mouseMode : MouseMode
  stretch : Bool
deriving DecidableEq, Repr

/-- Takes the reasons to wake, and the waiting picture if it has arrived by now. -/
def RenderSlot.read (s : RenderSlot) (now : UInt64) : SlotReading × RenderSlot :=
  let (wake, s) := s.takeWake
  let (frame, smoother) :=
    if (s.smoother.get now).isSome then s.smoother.pop else (none, s.smoother)
  (⟨frame, wake, if wake.cursor then s.cursor else none, s.mouseMode, s.stretch⟩,
    { s with smoother })

/-- What of a reading is passed on to the renderer. -/
def SlotReading.settings (r : SlotReading) : List RenderAction :=
  r.cursor.toList.map .cursor ++ (if r.wake.mouseMode then [.mouseMode r.mouseMode] else [])
    ++ (if r.wake.stretch then [.stretch r.stretch] else [])

namespace RenderPass

/-- Draws a picture and presents it; presenting is left out when drawing did not succeed. -/
def draw (p : RenderPass) (r : Resource) : List RenderAction × RenderOutcome :=
  match p.render r with
  | .success => ([.rendered r .success, .presented p.present], p.present)
  | outcome => ([.rendered r outcome], outcome)

/-- All overlays are set up again. -/
def resetOverlays (p : RenderPass) : List RenderAction :=
  (List.range p.overlays.length).map .overlayReset

/-- Each overlay draws; one that has to be set up again is. -/
def drawOverlays (p : RenderPass) (stats : RenderStats) : List RenderAction :=
  p.overlays.zipIdx.flatMap fun (outcome, index) =>
    .overlayRendered index stats outcome ::
      (if outcome = .reset then [.overlayReset index] else [])

end RenderPass

namespace ClientPipeline

/-- The render thread ends for good. -/
def stopRendering (c : ClientPipeline) (cause : StreamError) : List ClientEvent × ClientPipeline :=
  (c.emit (.renderStopped c.instanceId cause), { c with rendering := false })

/-- Makes a lost target again; the thread ends if that fails. -/
def restoreTarget (c : ClientPipeline) (p : RenderPass) :
    List RenderAction × List ClientEvent × ClientPipeline :=
  if c.targetLost then
    let c := { c with targetLost := false }
    if p.targetOk then ([.targetReset true], [], c)
    else ([.targetReset false], c.stopRendering .renderDeviceLost)
  else ([], [], c)

/-- A picture has been shown. -/
def recordShown (c : ClientPipeline) (p : RenderPass) (r : Resource) (f : Option WaitingFrame) :
    ClientPipeline :=
  let stats := match f with
    | some f => c.stats.recordLatency f.captureTime f.arrivalTime c.telemetry.timeDiff
    | none => c.stats
  { c with last := some r, stats := stats.recordPresent p.presentTime }

/-- Reports the state of the transport to the host, if that is due and there is something new. -/
def reportTransport (c : ClientPipeline) (p : RenderPass) : List ClientEvent × ClientPipeline :=
  if p.reportDue then
    match c.telemetry.takeReport with
    | (some stat, telemetry) => (c.emit (.outbound (.sendSideStat stat)), { c with telemetry })
    | (none, telemetry) => ([], { c with telemetry })
  else ([], c)

/-- Draws a picture, and what follows from the outcome. -/
def showPicture (c : ClientPipeline) (p : RenderPass) (r : Resource) (f : Option WaitingFrame) :
    List RenderAction × List ClientEvent × ClientPipeline :=
  let (drawn, outcome) := p.draw r
  match outcome with
  | .reset => (drawn ++ p.resetOverlays, [], c)
  | .failed => (drawn, c.stopRendering .renderFatal)
  | .success =>
    let c := c.recordShown p r f
    (drawn ++ p.drawOverlays c.renderStats, c.reportTransport p)

/-- Reads the render slot, passes on what is new, and draws. -/
def showSlot (c : ClientPipeline) (p : RenderPass) :
    List RenderAction × List ClientEvent × ClientPipeline :=
  let (reading, slot) := c.slot.read p.now
  let c := { c with slot }
  match (reading.frame.map (·.resource)).or c.last with
  | none => (reading.settings, [], c)
  | some r =>
    let (drawn, events, c) := c.showPicture p r reading.frame
    (reading.settings ++ drawn, events, c)

/-- One pass of the thread's loop. -/
def renderPass (c : ClientPipeline) (p : RenderPass) :
    List RenderAction × List ClientEvent × ClientPipeline :=
  if c.running && c.rendering then
    let (reset, events, c) := c.restoreTarget p
    if c.rendering && p.ready then
      let (shown, more, c) := c.showSlot p
      (reset ++ shown, events ++ more, c)
    else (reset, events, c)
  else ([], [], c)

end ClientPipeline

end Screencast
