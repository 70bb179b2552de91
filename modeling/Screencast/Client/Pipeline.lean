import Screencast.Client.RenderSlot
import Screencast.Client.Stats
import Screencast.Lifecycle
import Screencast.Tuning

/-! # The client's pipeline

One thread decodes what has been submitted, another shows what has been decoded. This module has
the state the two share with each other and with the owner, and what the owner does to it. The
pipeline never builds itself anew; it tells its owner when that is needed.
-/

namespace Screencast

open Wire

/-- What the client's pipeline tells its owner. -/
inductive ClientEvent
  /-- A message for the host. -/
  | outbound (m : Message)
  /-- The decoder is beyond repair; the instance has to be built anew. -/
  | resetRequested (instanceId : Nat) (cause : StreamError)
  /-- The render thread has ended for good. -/
  | renderStopped (instanceId : Nat) (cause : StreamError)
deriving DecidableEq, Repr

/-- What whoever submits a frame should do next. -/
inductive SubmitAction
  /-- A frame could not be decoded; the host should send a keyframe. -/
  | requestKeyframe
  | nothing
deriving DecidableEq, Repr

/-- A frame that waits to be decoded, with the time of its arrival. -/
structure QueuedFrame where
  frame : EncodedFrame
  arrivalTime : UInt64
deriving DecidableEq, Repr, Inhabited

/-- What a client's pipeline is made for. -/
structure ClientParams where
  negotiated : Option Negotiated
  /-- Whether there is a surface to present into. -/
  hasSurface : Bool
  /-- Whether anybody takes the events. -/
  hasEvents : Bool
  tuning : ClientTuning := {}
deriving DecidableEq, Repr

/-- Refuses parameters that are missing or make no sense; the first fault counts. -/
def ClientParams.check (p : ClientParams) : Except StreamError Negotiated :=
  match p.negotiated with
  | none => .error (.invalidParams "negotiated parameters missing")
  | some n =>
    if n.mode.width = 0 ∨ n.mode.height = 0 then
      .error (.invalidParams "negotiated size must be non-zero")
    else if !p.hasSurface then .error (.invalidParams "target surface missing")
    else if !p.hasEvents then .error (.invalidParams "event sink missing")
    else .ok n

/-- The state of a client's pipeline. -/
structure ClientPipeline where
  instanceId : Nat
  negotiated : Negotiated
  state : Lifecycle := .created
  /-- Whether the threads should go on. -/
  running : Bool := false
  /-- Whether no more frames are taken: the pipeline was stopped, or the decoder is dead. -/
  closed : Bool := false
  /-- Whether a frame has failed to decode since the last answer to a submission. -/
  keyframeNeeded : Bool := false
  /-- Whether the render target has to be made again. -/
  targetLost : Bool := false
  /-- Whether the decode thread is in its loop. -/
  decoding : Bool := false
  /-- Whether the render thread is in its loop. -/
  rendering : Bool := false
  /-- Whether anybody takes the events. -/
  listening : Bool := true
  /-- Frames that wait to be decoded, the oldest first. -/
  queue : List QueuedFrame := []
  slot : RenderSlot
  telemetry : Telemetry := {}
  stats : StatsTracker := {}
  /-- The texture shown last. -/
  last : Option Resource := none
deriving DecidableEq, Repr

/-- What a decoder offers to the renderer when a pipeline is created. -/
structure DecoderOutput where
  textures : List Resource
  format : PixelFormat
deriving DecidableEq, Repr

namespace ClientPipeline

def new (instanceId : Nat) (n : Negotiated) : ClientPipeline :=
  { instanceId, negotiated := n, slot := .new n.stretch }

/-- What happened while a pipeline was created. -/
structure Creation where
  /-- Whether a decoder was asked for. -/
  askedDecoder : Bool := false
  /-- What the renderer was asked to draw from. -/
  bound : Option DecoderOutput := none
  result : Except StreamError ClientPipeline

/-- Creates a pipeline that does nothing yet. `decoder` is what the negotiated codec's decoder
offers, if there is one; `bind` tells whether the renderer takes it. -/
def create (p : ClientParams) (instanceId : Nat) (decoder : Negotiated → Option DecoderOutput)
    (bind : DecoderOutput → Bool) : Creation :=
  match p.check with
  | .error e => { result := .error e }
  | .ok n =>
    match decoder n with
    | none => ⟨true, none, .error (.invalidParams "no decoder for the negotiated codec")⟩
    | some output => ⟨true, some output,
        if bind output then .ok (new instanceId n)
        else .error (.invalidParams "renderer rejected decoder textures")⟩

/-- Starts both threads. -/
def start (c : ClientPipeline) : Except StreamError Unit × ClientPipeline :=
  match c.state.start with
  | .error e => (.error e, c)
  | .ok state => (.ok (), { c with state, running := true, decoding := true, rendering := true })

/-- Stops both threads for good and drops what waits. -/
def stop (c : ClientPipeline) : ClientPipeline :=
  { c with
    state := c.state.stop.2, running := false, closed := true, decoding := false
    rendering := false, queue := [] }

/-- The events that come through to the owner. -/
def emit (c : ClientPipeline) (e : ClientEvent) : List ClientEvent :=
  if c.listening then [e] else []

/-- Adds a frame to the queue. -/
def enqueue (c : ClientPipeline) (f : QueuedFrame) : ClientPipeline :=
  { c with queue := c.queue ++ [f] }

/-- Tells whether a keyframe is needed, once. -/
def takeKeyframeNeeded (c : ClientPipeline) : SubmitAction × ClientPipeline :=
  (if c.keyframeNeeded then .requestKeyframe else .nothing, { c with keyframeNeeded := false })

/-- Submits a frame; a closed pipeline drops it. -/
def submit (c : ClientPipeline) (f : QueuedFrame) : SubmitAction × ClientPipeline :=
  (if c.closed then c else c.enqueue f).takeKeyframeNeeded

/-- Sends a message to the host, as long as anybody takes the events. -/
def sendToHost (c : ClientPipeline) (m : Message) : Except StreamError Unit × List ClientEvent :=
  if c.listening then (.ok (), [.outbound m]) else (.error .channelClosed, [])

/-- Fixes the host's bitrate. -/
def requestBitrate (c : ClientPipeline) (bps : UInt64) :
    Except StreamError Unit × List ClientEvent :=
  c.sendToHost (.reconfigureEncoder (.manual bps))

/-- Hands the bitrate back to the host. -/
def enableAutoBitrate (c : ClientPipeline) : Except StreamError Unit × List ClientEvent :=
  c.sendToHost (.reconfigureEncoder .turnOnAuto)

/-- The graphics device was lost. -/
def loseTarget (c : ClientPipeline) : ClientPipeline := { c with targetLost := true }

def setCursor (c : ClientPipeline) (info : CursorInfo) : ClientPipeline :=
  { c with slot := c.slot.setCursor info }

def setMouseMode (c : ClientPipeline) (mode : MouseMode) : ClientPipeline :=
  { c with slot := c.slot.setMouseMode mode }

def setStretch (c : ClientPipeline) (stretch : Bool) : ClientPipeline :=
  { c with slot := c.slot.setStretch stretch }

/-- The figures of the stream. -/
def renderStats (c : ClientPipeline) : RenderStats :=
  c.stats.snapshot c.slot.smoother.dropped c.telemetry

end ClientPipeline

end Screencast
