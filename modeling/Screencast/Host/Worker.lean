import Screencast.Cursor.Cache
import Screencast.Encoder.Basic
import Screencast.Host.Control
import Screencast.Rate.Controller
import Screencast.Rate.Throttle

/-! # The capture loop

One turn of the loop does the tasks that have come in, looks whether the display is still in the
negotiated mode, tells of the cursor, and captures, encodes and sends a picture. What the
collaborators answer during a turn is given beforehand, and everything the loop does with them is
recorded in order.
-/

namespace Screencast

open Wire

/-- What the host's pipeline tells its owner. -/
inductive HostEvent
  /-- A message for the client. -/
  | outbound (m : Message)
  /-- The loop has ended, and nothing follows. -/
  | terminated (cause : StreamError)
deriving DecidableEq, Repr

/-- One thing the loop did. -/
inductive HostAction
  /-- Handed a patch to the encoder, which accepted it or not. -/
  | reconfigured (patch : RatePatch) (accepted : Bool)
  | keyframeRequested
  /-- Asked for the cursor, first in one way, then perhaps in the other. -/
  | compositorAsked (found : Bool)
  | legacyAsked (found : Bool)
  /-- Waited for a picture. -/
  | captured (found : Bool)
  /-- Gave the picture of a time to the encoder. -/
  | encoded (time : UInt64)
  /-- An event that its receiver got. -/
  | sent (e : HostEvent)
  /-- Gave the picture of a time back to the capturer. -/
  | handedBack (time : UInt64)
deriving DecidableEq, Repr

/-- What the collaborators answer during one turn. -/
structure Turn where
  mode : DisplayMode
  compositor : Option CursorState := none
  legacy : Option CursorState := none
  capture : Option CapturedFrame := none
  /-- The host's clock before and after encoding. -/
  encodeStart : UInt64 := 0
  encodeEnd : UInt64 := 0
  /-- The number of events the receiver takes from here on, if it is about to leave. -/
  audience : Option Nat := none
deriving DecidableEq, Repr

/-- The cursor as a turn shows it; the second way counts only when the first shows nothing. -/
def Turn.cursor (t : Turn) : List HostAction × Option CursorState :=
  match t.compositor with
  | some state => ([.compositorAsked true], some state)
  | none => ([.compositorAsked false, .legacyAsked t.legacy.isSome], t.legacy)

/-- The state of the loop. -/
structure HostWorker (ε : Type) where
  encoder : ε
  codec : Codec
  /-- The negotiated mode. -/
  mode : DisplayMode
  throttle : Throttle
  rates : RateController
  cursor : CursorCache := {}
  /-- Pictures encoded so far; the next one gets this number. -/
  pictures : Nat := 0
  /-- The number of events the receiver still takes; without a number it stays. -/
  audience : Option Nat := none

namespace HostWorker

variable {ε : Type} [Encoder ε]

/-- Offers a patch to throttle and encoder. -/
def apply (w : HostWorker ε) (p : RatePatch) : Bool × HostWorker ε :=
  let throttle := match p.fps with
    | some fps => w.throttle.setTarget fps
    | none => w.throttle
  let (accepted, encoder) := Encoder.reconfigure w.encoder p
  (accepted, { w with throttle, encoder })

/-- The patch that a task asks for, and the controller afterwards. -/
def plan (c : RateController) : HostTask → Option RatePatch × RateController
  | .requestKeyframe => (none, c)
  | .reconfigure request => c.reconfigure request
  | .networkChanged stat => c.networkChanged stat

/-- Does one task; requests for a keyframe wait until all tasks are done. -/
def perform (w : HostWorker ε) (task : HostTask) : List HostAction × HostWorker ε :=
  let (patch, rates) := plan w.rates task
  let w := { w with rates }
  match patch with
  | none => ([], w)
  | some patch =>
    let (accepted, w) := w.apply patch
    ([.reconfigured patch accepted], w)

/-- Makes the stream start over: the next picture is a keyframe, the next cursor complete. -/
def restart (w : HostWorker ε) : HostWorker ε :=
  { w with encoder := Encoder.requestKeyframe w.encoder, cursor := w.cursor.invalidate }

/-- Does tasks one after the other. -/
def performAll (w : HostWorker ε) : List HostTask → List HostAction × HostWorker ε
  | [] => ([], w)
  | task :: tasks =>
    let (done, w) := w.perform task
    let (more, w) := w.performAll tasks
    (done ++ more, w)

/-- Does all tasks, and then starts over once if any of them asked for it. -/
def drain (w : HostWorker ε) (tasks : List HostTask) : List HostAction × HostWorker ε :=
  let (done, w) := w.performAll tasks
  if tasks.contains .requestKeyframe then (done ++ [.keyframeRequested], w.restart) else (done, w)

/-- Sends an event; the flag tells whether anybody was there to take it. -/
def send (w : HostWorker ε) (e : HostEvent) : Bool × List HostAction × HostWorker ε :=
  match w.audience with
  | none => (true, [.sent e], w)
  | some 0 => (false, [], w)
  | some (n + 1) => (true, [.sent e], { w with audience := some n })

/-- Proposes a new mode to the client, and tells that the loop ends because of it. -/
def announce (w : HostWorker ε) (mode : DisplayMode) : List HostAction × HostWorker ε :=
  match w.send (.outbound (.changeStreamingParams mode)) with
  | (false, done, w) => (done, w)
  | (true, done, w) =>
    let cause := StreamError.resolutionChanged mode.width mode.height mode.refreshRate
    let (_, more, w) := w.send (.terminated cause)
    (done ++ more, w)

/-- Tells of the cursor if it changed; the flag tells whether to go on. -/
def pollCursor (w : HostWorker ε) (t : Turn) : Bool × List HostAction × HostWorker ε :=
  let (asked, state) := t.cursor
  match state with
  | none => (true, asked, w)
  | some state =>
    match w.cursor.update state with
    | (none, cursor) => (true, asked, { w with cursor })
    | (some info, cursor) =>
      let (heard, done, w) := { w with cursor }.send (.outbound (.cursorInfo info))
      (heard, asked ++ done, w)

/-- The message for an encoded picture. -/
def frame (w : HostWorker ε) (t : Turn) (f : CapturedFrame) (out : EncodedOutput) :
    EncodedFrame :=
  { codec := w.codec, width := f.width, height := f.height, isKeyframe := out.isKeyframe,
    pictureId := UInt64.ofNat w.pictures, captureTime := f.timestamp,
    encodeStart := t.encodeStart, encodeEnd := t.encodeEnd, payload := out.payload }

/-- Encodes a picture and sends what comes of it; the flag tells whether to go on. -/
def encodeFrame (w : HostWorker ε) (t : Turn) (f : CapturedFrame) :
    Bool × List HostAction × HostWorker ε :=
  let (out, encoder) := Encoder.encode w.encoder f
  let w := { w with encoder }
  match out with
  | none => (true, [.encoded f.timestamp], w)
  | some out =>
    let e := HostEvent.outbound (.encodedFrame (w.frame t f out))
    let (heard, done, w) := { w with pictures := w.pictures + 1 }.send e
    (heard, .encoded f.timestamp :: done, w)

/-- Encodes a captured picture if it is of the right size and the throttle wants it. -/
def handleFrame (w : HostWorker ε) (t : Turn) (f : CapturedFrame) :
    Bool × List HostAction × HostWorker ε :=
  if f.width = w.mode.width ∧ f.height = w.mode.height then
    let (wanted, throttle) := w.throttle.offer f.timestamp.toNat
    let w := { w with throttle }
    if wanted then w.encodeFrame t f else (true, [], w)
  else (true, [], w)

/-- Captures a picture and hands it back once it has been dealt with. -/
def captureFrame (w : HostWorker ε) (t : Turn) : Bool × List HostAction × HostWorker ε :=
  match t.capture with
  | none => (true, [.captured false], w)
  | some f =>
    let (goesOn, done, w) := w.handleFrame t f
    (goesOn, .captured true :: done ++ [.handedBack f.timestamp], w)

/-- What follows the tasks in a turn; the flag tells whether another turn follows. -/
def look (w : HostWorker ε) (t : Turn) : Bool × List HostAction × HostWorker ε :=
  if t.mode = w.mode then
    match w.pollCursor t with
    | (false, done, w) => (false, done, w)
    | (true, done, w) =>
      let (goesOn, more, w) := w.captureFrame t
      (goesOn, done ++ more, w)
  else
    let (done, w) := w.announce t.mode
    (false, done, w)

/-- The receiver of events may be about to leave. -/
def heed (w : HostWorker ε) (t : Turn) : HostWorker ε :=
  { w with audience := t.audience.or w.audience }

/-- One turn of the loop; the flag tells whether another one follows. -/
def turn (w : HostWorker ε) (tasks : List HostTask) (t : Turn) :
    Bool × List HostAction × HostWorker ε :=
  let (done, w) := w.drain tasks
  let (goesOn, more, w) := (w.heed t).look t
  (goesOn, done ++ more, w)

end HostWorker

/-- The loop together with what others share with it. -/
structure HostLoop (ε : Type) where
  worker : HostWorker ε
  queue : TaskQueue := {}
  running : Bool := true

namespace HostLoop

variable {ε : Type} [Encoder ε]

/-- One turn, as long as the loop runs; the flag tells whether another one follows. -/
def turn (l : HostLoop ε) (t : Turn) : Bool × List HostAction × HostLoop ε :=
  if l.running then
    let (tasks, queue) := l.queue.drain
    let (goesOn, done, worker) := l.worker.turn tasks t
    (goesOn, done, { l with worker, queue })
  else (false, [], l)

/-- The thread leaves the loop: it no longer runs, and takes no more tasks. -/
def leave (l : HostLoop ε) : HostLoop ε := { l with running := false, queue := l.queue.close }

/-- One turn, and leaving the loop if it was the last. -/
def step (l : HostLoop ε) (t : Turn) : List HostAction × HostLoop ε :=
  let (goesOn, done, l) := l.turn t
  (done, if goesOn then l else l.leave)

/-- A run over some turns. -/
def run (l : HostLoop ε) : List Turn → List HostAction × HostLoop ε
  | [] => ([], l)
  | t :: ts =>
    let (done, l) := l.step t
    let (more, l) := l.run ts
    (done ++ more, l)

end HostLoop

/-- The events among the things the loop did. -/
def HostAction.events (actions : List HostAction) : List HostEvent :=
  actions.filterMap fun
    | .sent e => some e
    | _ => none

end Screencast
